import RasterText.Template.Tree
set_option autoImplicit false

/-!
The trees of a template, told without the parser. A tree stands for the tokens that it is flattened
to, but for the blanks at the edges of bodies. A sequence of tokens has exactly one tree in which
every start marker is paired with the first end marker that its level allows.
-/

namespace RasterText

def onFirst {α : Type} (f : α → Option α) : List α → List α
  | [] => []
  | a :: rest => (f a).toList ++ rest

def onLast {α : Type} (f : α → Option α) : List α → List α
  | [] => []
  | [a] => (f a).toList
  | a :: b :: rest => a :: onLast f (b :: rest)

theorem onLast_cons {α : Type} (f : α → Option α) (a : α) {rest : List α} (h : rest ≠ []) :
    onLast f (a :: rest) = a :: onLast f rest := by
  cases rest with
  | nil => exact absurd rfl h
  | cons b rest => rfl

theorem onLast_append_cons {α : Type} (f : α → Option α) (front : List α) (a : α)
    (rest : List α) : onLast f (front ++ a :: rest) = front ++ onLast f (a :: rest) := by
  induction front with
  | nil => rfl
  | cons b front ih => rw [List.cons_append, onLast_cons f b (by simp), ih, List.cons_append]

theorem map_onFirst {α β : Type} {f : α → Option α} {g : β → Option β} {m : α → β}
    (h : ∀ a, (f a).map m = g (m a)) (l : List α) :
    (onFirst f l).map m = onFirst g (l.map m) := by
  cases l with
  | nil => rfl
  | cons a rest =>
    simp only [onFirst, List.map_append, List.map_cons]
    rw [← h a]
    cases f a <;> rfl

theorem map_onLast {α β : Type} {f : α → Option α} {g : β → Option β} {m : α → β}
    (h : ∀ a, (f a).map m = g (m a)) (l : List α) : (onLast f l).map m = onLast g (l.map m) := by
  induction l with
  | nil => rfl
  | cons a rest ih =>
    cases rest with
    | nil =>
      simp only [onLast, List.map_cons, List.map_nil]
      rw [← h a]
      cases f a <;> rfl
    | cons b rest => simpa [onLast] using ih

def Node.trimText? (f : Text → Text) : Node → Option Node
  | .text value span => if f value = [] then none else some (.text (f value) span)
  | node => some node

/-- A body in which text in first place has lost its blanks at the start, and text in last place
those at the end. -/
def trimEdges (body : List Node) : List Node :=
  onLast (Node.trimText? Text.trimEnd) (onFirst (Node.trimText? Text.trimStart) body)

mutual

def Node.bare : Node → Node
  | .text value _ => .text value ⟨0, 0⟩
  | .tag name _ => .tag name ⟨0, 0⟩
  | .block name body _ => .block name (bareNodes body) ⟨0, 0⟩
  | .unclosed name _ => .unclosed name ⟨0, 0⟩
  | .strayEnd name _ => .strayEnd name ⟨0, 0⟩

def bareNodes : List Node → List Node
  | [] => []
  | node :: rest => node.bare :: bareNodes rest

end

mutual

def Node.flatten : Node → List Token
  | .text value _ => [.text value]
  | .tag name _ => [.tag name]
  | .block name body _ => .blockStart name :: (flattenNodes body ++ [.blockEnd name])
  | .unclosed name _ => [.blockStart name]
  | .strayEnd name _ => [.blockEnd name]

def flattenNodes : List Node → List Token
  | [] => []
  | node :: rest => node.flatten ++ flattenNodes rest

end

/-- The tree is flattened to the tokens, where in every body the blanks at the edges are put back
that have been trimmed. -/
inductive Flattens : List Node → List Token → Prop
  | nil : Flattens [] []
  | text {value : Text} {span : Span} {nodes : List Node} {tokens : List Token} :
      Flattens nodes tokens → Flattens (.text value span :: nodes) (.text value :: tokens)
  | tag {name : Text} {span : Span} {nodes : List Node} {tokens : List Token} :
      Flattens nodes tokens → Flattens (.tag name span :: nodes) (.tag name :: tokens)
  | strayEnd {name : Text} {span : Span} {nodes : List Node} {tokens : List Token} :
      Flattens nodes tokens → Flattens (.strayEnd name span :: nodes) (.blockEnd name :: tokens)
  | unclosed {name : Text} {span : Span} {nodes : List Node} {tokens : List Token} :
      Flattens nodes tokens → Flattens (.unclosed name span :: nodes) (.blockStart name :: tokens)
  | block {name : Text} {span : Span} {inner nodes : List Node} {tokens after : List Token} :
      Flattens inner tokens → Flattens nodes after →
      Flattens (.block name (trimEdges inner) span :: nodes)
        (.blockStart name :: (tokens ++ .blockEnd name :: after))

mutual

/-- No block holds an end marker of its name, and none comes after an unclosed start marker, at any
depth of the nodes behind it. -/
def Node.PairedBefore (rest : List Node) : Node → Prop
  | .block name body _ => .blockEnd name ∉ flattenNodes body ∧ Paired body
  | .unclosed name _ => .blockEnd name ∉ flattenNodes rest
  | _ => True

/-- Every start marker goes with the first end marker of its name that its level allows. -/
def Paired : List Node → Prop
  | [] => True
  | node :: rest => node.PairedBefore rest ∧ Paired rest

end

theorem bareNodes_eq_map (nodes : List Node) : bareNodes nodes = nodes.map Node.bare := by
  induction nodes with
  | nil => rfl
  | cons node rest ih => rw [bareNodes, ih, List.map_cons]

theorem bareNodes_trimEdges (body : List Node) :
    bareNodes (trimEdges body) = trimEdges (bareNodes body) := by
  have h (f : Text → Text) (n : Node) :
      (n.trimText? f).map Node.bare = n.bare.trimText? f := by
    cases n with
    | text value span => by_cases hv : f value = [] <;> simp [Node.trimText?, Node.bare, hv]
    | _ => rfl
  simp only [bareNodes_eq_map, trimEdges]
  rw [map_onLast (h Text.trimEnd), map_onFirst (h Text.trimStart)]

def Node.isText : Node → Bool
  | .text _ _ => true
  | _ => false

def ChangesText (f : Node → Option Node) : Prop :=
  ∀ n, f n = some n ∨ n.isText = true ∧ ∀ m, f n = some m → m.isText = true

theorem changesText_trimText? (f : Text → Text) : ChangesText (Node.trimText? f) := by
  intro n
  cases n with
  | text value span =>
    refine .inr ⟨rfl, fun m h => ?_⟩
    simp only [Node.trimText?, Option.ite_none_left_eq_some, Option.some.injEq] at h
    rw [← h.2]
    rfl
  | _ => exact .inl rfl

def markersOf (nodes : List Node) : List Token :=
  (flattenNodes nodes).filter fun t => t.keyword.isSome

theorem markersOf_cons (node : Node) (rest : List Node) :
    markersOf (node :: rest) = markersOf [node] ++ markersOf rest := by
  simp [markersOf, flattenNodes]

theorem markersOf_text {node : Node} (h : node.isText = true) (rest : List Node) :
    markersOf (node :: rest) = markersOf rest := by
  cases node with
  | text value span => simp [markersOf, flattenNodes, Node.flatten, Token.keyword]
  | _ => simp [Node.isText] at h

theorem blockEnd_mem_flattenNodes {name : Text} {nodes : List Node} :
    .blockEnd name ∈ flattenNodes nodes ↔ .blockEnd name ∈ markersOf nodes := by
  simp [markersOf, Token.keyword]

namespace ChangesText

variable {f : Node → Option Node}

theorem markersOf_toList (hf : ChangesText f) (node : Node) (rest : List Node) :
    markersOf ((f node).toList ++ rest) = markersOf (node :: rest) := by
  rcases hf node with h | ⟨ht, h⟩
  · rw [h]
    rfl
  · rw [markersOf_text ht]
    cases hn : f node with
    | none => rfl
    | some m => exact markersOf_text (h m hn) rest

theorem markersOf_onFirst (hf : ChangesText f) (nodes : List Node) :
    markersOf (onFirst f nodes) = markersOf nodes := by
  cases nodes with
  | nil => rfl
  | cons node rest => exact hf.markersOf_toList node rest

theorem markersOf_onLast (hf : ChangesText f) (nodes : List Node) :
    markersOf (onLast f nodes) = markersOf nodes := by
  induction nodes with
  | nil => rfl
  | cons node rest ih =>
    cases rest with
    | nil => simpa [onLast] using hf.markersOf_toList node []
    | cons next rest => rw [onLast, markersOf_cons, ih, ← markersOf_cons]

theorem paired_text {node : Node} (h : node.isText = true) {rest : List Node} :
    Paired (node :: rest) ↔ Paired rest := by
  cases node with
  | text value span => simp [Paired, Node.PairedBefore]
  | _ => simp [Node.isText] at h

theorem paired_toList (hf : ChangesText f) (node : Node) (rest : List Node) :
    Paired ((f node).toList ++ rest) ↔ Paired (node :: rest) := by
  rcases hf node with h | ⟨ht, h⟩
  · rw [h]
    rfl
  · rw [paired_text ht]
    cases hn : f node with
    | none => rfl
    | some m => exact paired_text (h m hn)

theorem paired_onFirst (hf : ChangesText f) (nodes : List Node) :
    Paired (onFirst f nodes) ↔ Paired nodes := by
  cases nodes with
  | nil => rfl
  | cons node rest => exact hf.paired_toList node rest

theorem pairedBefore_congr {node : Node} {rest more : List Node}
    (h : markersOf rest = markersOf more) : node.PairedBefore rest ↔ node.PairedBefore more := by
  cases node with
  | unclosed name span =>
    simp only [Node.PairedBefore, blockEnd_mem_flattenNodes, h]
  | _ => simp [Node.PairedBefore]

theorem paired_onLast (hf : ChangesText f) (nodes : List Node) :
    Paired (onLast f nodes) ↔ Paired nodes := by
  induction nodes with
  | nil => rfl
  | cons node rest ih =>
    cases rest with
    | nil => simpa [onLast] using hf.paired_toList node []
    | cons next rest =>
      exact and_congr (pairedBefore_congr (hf.markersOf_onLast (next :: rest))) ih

end ChangesText

theorem markersOf_trimEdges (body : List Node) : markersOf (trimEdges body) = markersOf body := by
  rw [trimEdges, (changesText_trimText? _).markersOf_onLast,
    (changesText_trimText? _).markersOf_onFirst]

theorem paired_trimEdges (body : List Node) : Paired (trimEdges body) ↔ Paired body := by
  rw [trimEdges, (changesText_trimText? _).paired_onLast,
    (changesText_trimText? _).paired_onFirst]

theorem eq_of_append_cons_eq {α : Type} {a : α} {front back front' back' : List α}
    (hn : a ∉ front) (hn' : a ∉ front') (h : front ++ a :: back = front' ++ a :: back') :
    front = front' ∧ back = back' := by
  induction front generalizing front' with
  | nil =>
    cases front' with
    | nil => simpa using h
    | cons b front' =>
      simp only [List.nil_append, List.cons_append, List.cons.injEq] at h
      exact absurd (by simp [h.1]) hn'
  | cons b front ih =>
    cases front' with
    | nil =>
      simp only [List.nil_append, List.cons_append, List.cons.injEq] at h
      exact absurd (by simp [h.1]) hn
    | cons b' front' =>
      simp only [List.cons_append, List.cons.injEq] at h
      have ht := ih (fun hm => hn (by simp [hm])) (fun hm => hn' (by simp [hm])) h.2
      rw [h.1, ht.1, ht.2]
      exact ⟨rfl, rfl⟩

namespace Flattens

theorem markersOf_eq {nodes : List Node} {tokens : List Token} (h : Flattens nodes tokens) :
    markersOf nodes = tokens.filter fun t => t.keyword.isSome := by
  induction h with
  | nil => rfl
  | text _ ih => rw [markersOf_text rfl, ih]; rfl
  | tag _ ih => rw [markersOf_cons, ih]; rfl
  | strayEnd _ ih => rw [markersOf_cons, ih]; rfl
  | unclosed _ ih => rw [markersOf_cons, ih]; rfl
  | @block name span inner nodes tokens after _ _ ih iha =>
    have hb : markersOf [.block name (trimEdges inner) span] =
        .blockStart name :: (markersOf (trimEdges inner) ++ [.blockEnd name]) := by
      simp [markersOf, flattenNodes, Node.flatten, Token.keyword]
    rw [markersOf_cons, hb, markersOf_trimEdges, ih, iha]
    simp [Token.keyword]

theorem blockEnd_mem {nodes : List Node} {tokens : List Token} (h : Flattens nodes tokens)
    {name : Text} : .blockEnd name ∈ flattenNodes nodes ↔ .blockEnd name ∈ tokens := by
  rw [blockEnd_mem_flattenNodes, h.markersOf_eq]
  simp [Token.keyword]

theorem nodes_eq_nil {nodes : List Node} (h : Flattens nodes []) : nodes = [] := by
  cases h
  rfl

theorem unique {first second : List Node} {tokens : List Token} (hf : Flattens first tokens)
    (hs : Flattens second tokens) (pf : Paired first) (ps : Paired second) :
    bareNodes first = bareNodes second := by
  induction hf generalizing second with
  | nil => rw [hs.nodes_eq_nil]
  | text _ ih =>
    cases hs with
    | text hs => rw [bareNodes, bareNodes, ih hs pf.2 ps.2]; rfl
  | tag _ ih =>
    cases hs with
    | tag hs => rw [bareNodes, bareNodes, ih hs pf.2 ps.2]; rfl
  | strayEnd _ ih =>
    cases hs with
    | strayEnd hs => rw [bareNodes, bareNodes, ih hs pf.2 ps.2]; rfl
  | @unclosed name span nodes tokens hn ih =>
    have hnot : .blockEnd name ∉ tokens := fun h => pf.1 (hn.blockEnd_mem.2 h)
    generalize ht : Token.blockStart name :: tokens = all at hs
    cases hs with
    | nil | text | tag | strayEnd => simp at ht
    | unclosed hs =>
      simp only [List.cons.injEq, Token.blockStart.injEq] at ht
      obtain ⟨rfl, rfl⟩ := ht
      rw [bareNodes, bareNodes, ih hs pf.2 ps.2]
      rfl
    | block _ _ =>
      simp only [List.cons.injEq, Token.blockStart.injEq] at ht
      obtain ⟨rfl, rfl⟩ := ht
      simp at hnot
  | @block name span inner nodes tokens after hi ha ih iha =>
    have hnot : .blockEnd name ∉ tokens := fun h => pf.1.1 (by
      rw [blockEnd_mem_flattenNodes, markersOf_trimEdges, ← blockEnd_mem_flattenNodes]
      exact hi.blockEnd_mem.2 h)
    generalize ht : Token.blockStart name :: (tokens ++ .blockEnd name :: after) = all at hs
    cases hs with
    | nil | text | tag | strayEnd => simp at ht
    | unclosed hs =>
      simp only [List.cons.injEq, Token.blockStart.injEq] at ht
      obtain ⟨rfl, rfl⟩ := ht
      exact absurd (hs.blockEnd_mem.2 (by simp)) ps.1
    | @block _ _ inner' nodes' tokens' after' hi' ha' =>
      simp only [List.cons.injEq, Token.blockStart.injEq] at ht
      obtain ⟨rfl, ht⟩ := ht
      have hnot' : .blockEnd name ∉ tokens' := fun h => ps.1.1 (by
        rw [blockEnd_mem_flattenNodes, markersOf_trimEdges, ← blockEnd_mem_flattenNodes]
        exact hi'.blockEnd_mem.2 h)
      obtain ⟨rfl, rfl⟩ := eq_of_append_cons_eq hnot hnot' ht
      have hinner := ih hi' ((paired_trimEdges inner).1 pf.1.2) ((paired_trimEdges inner').1 ps.1.2)
      have hafter := iha ha' pf.2 ps.2
      rw [bareNodes, bareNodes, Node.bare, Node.bare, bareNodes_trimEdges, bareNodes_trimEdges,
        hinner, hafter]

end Flattens

end RasterText
