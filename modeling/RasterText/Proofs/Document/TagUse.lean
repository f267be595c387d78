import Mathlib
import RasterText.Proofs.Document.ItemTags
import RasterText.Proofs.Template.Parsing
set_option autoImplicit false

/-!
The tags that a template asks for: outside images tables its plain tags and stray end markers,
inside them all markers but those that the items have values for. A document depends on no other
tag.
-/

namespace RasterText

def keywordsOf (nodes : List Node) : List Text := (flattenNodes nodes).filterMap Token.keyword

mutual

/-- The names that a node looks up among the tags of the document. -/
def Node.baseNames : Node → List Text
  | .tag name _ => [name]
  | .strayEnd name _ => [Token.endKeyword name]
  | .block name body _ =>
    if name = imagesTable then (keywordsOf body).filter fun k => !itemTagNames.contains k
    else baseNames body
  | _ => []

def baseNames : List Node → List Text
  | [] => []
  | node :: rest => node.baseNames ++ baseNames rest

end

mutual

def Node.holdsTable : Node → Bool
  | .block name body _ => name == imagesTable || holdsTable body
  | _ => false

def holdsTable : List Node → Bool
  | [] => false
  | node :: rest => node.holdsTable || holdsTable rest

end

theorem keywordsOf_cons (node : Node) (rest : List Node) :
    keywordsOf (node :: rest) = keywordsOf [node] ++ keywordsOf rest := by
  simp [keywordsOf, flattenNodes]

theorem keywordsOf_block (name : Text) (body : List Node) (span : Span) :
    keywordsOf [.block name body span] =
      Token.startKeyword name :: (keywordsOf body ++ [Token.endKeyword name]) := by
  simp [keywordsOf, flattenNodes, Node.flatten, Token.keyword]

theorem exists_token_of_mem_keywordsOf {s : Text} {nodes : List Node} (h : parse s = .ok nodes)
    {k : Text} (hk : k ∈ keywordsOf nodes) : ∃ x ∈ lex s, x.token.keyword = some k := by
  have hn : nodes = (parseLevel [] (lex s)).1 := by
    unfold parse at h
    split at h
    · next hp => rw [hp]; cases h; rfl
    · cases h
  have hm : markersOf nodes = ((lex s).map Lexeme.token).filter fun t => t.keyword.isSome := by
    rw [hn, (flattens_parseLevel [] (lex s) (lexFrom_ne_empty 0 s)).markersOf_eq]
  obtain ⟨t, ht, hkt⟩ := List.mem_filterMap.1 hk
  have hmem : t ∈ markersOf nodes := List.mem_filter.2 ⟨ht, by simp [hkt]⟩
  rw [hm] at hmem
  obtain ⟨x, hx, rfl⟩ := List.mem_map.1 (List.mem_filter.1 hmem).1
  exact ⟨x, hx, hkt⟩

mutual

theorem Node.mem_keywordsOf_of_baseNames (node : Node) {k : Text} (h : k ∈ node.baseNames) :
    k ∈ keywordsOf [node] := by
  cases node with
  | text value span => cases h
  | unclosed name span => cases h
  | tag name span => exact h
  | strayEnd name span => exact h
  | block name body span =>
    rw [keywordsOf_block]
    refine List.mem_cons_of_mem _ (List.mem_append_left _ ?_)
    rw [Node.baseNames] at h
    split at h
    · exact (List.mem_filter.1 h).1
    · exact mem_keywordsOf_of_baseNames body h

theorem mem_keywordsOf_of_baseNames (nodes : List Node) {k : Text} (h : k ∈ baseNames nodes) :
    k ∈ keywordsOf nodes := by
  cases nodes with
  | nil => cases h
  | cons node rest =>
    rw [keywordsOf_cons]
    rcases List.mem_append.1 h with h | h
    · exact List.mem_append_left _ (Node.mem_keywordsOf_of_baseNames node h)
    · exact List.mem_append_right _ (mem_keywordsOf_of_baseNames rest h)

end

section Substitution

variable {f g : Text → Option Text}

theorem resolve_congr {name : Text} (h : f name = g name) : resolve f name = resolve g name := by
  rw [resolve, resolve, h]

mutual

theorem Node.substitute_congr (node : Node) (h : ∀ k ∈ keywordsOf [node], f k = g k) :
    node.substitute f = node.substitute g := by
  cases node with
  | text value span => rfl
  | tag name span => exact resolve_congr (h name List.mem_cons_self)
  | unclosed name span => exact resolve_congr (h (Token.startKeyword name) List.mem_cons_self)
  | strayEnd name span => exact resolve_congr (h (Token.endKeyword name) List.mem_cons_self)
  | block name body span =>
    rw [keywordsOf_block] at h
    have hs : resolve f (Token.startKeyword name) = resolve g (Token.startKeyword name) :=
      resolve_congr (h _ (by simp))
    have he : resolve f (Token.endKeyword name) = resolve g (Token.endKeyword name) :=
      resolve_congr (h _ (by simp))
    have hb := RasterText.substitute_congr body fun k hk => h k (by simp [hk])
    rw [Node.substitute, Node.substitute, hs, he, hb]

theorem substitute_congr (nodes : List Node) (h : ∀ k ∈ keywordsOf nodes, f k = g k) :
    substitute f nodes = substitute g nodes := by
  cases nodes with
  | nil => rfl
  | cons node rest =>
    rw [keywordsOf_cons] at h
    have hn := Node.substitute_congr node fun k hk => h k (List.mem_append_left _ hk)
    have hr := substitute_congr rest fun k hk => h k (List.mem_append_right _ hk)
    rw [substitute, substitute, hn, hr]

end

end Substitution

namespace Renderer

variable {r : Renderer} {base other : Tags}

theorem expandItem_congr (hi : base.indent = other.indent) {body : List Node}
    (h : ∀ k ∈ keywordsOf body, k ∉ itemTagNames → base.get? k = other.get? k)
    (key : Text) (last : Bool) :
    r.expandItem base body key last = r.expandItem other body key last := by
  rw [expandItem_eq, expandItem_eq, itemTags_congr hi]
  cases ht : r.itemTags other key last with
  | error e => rfl
  | ok tags =>
    have hs := substitute_congr (f := fun name => (tags.lookup name).or (base.get? name))
      (g := fun name => (tags.lookup name).or (other.get? name)) body fun k hk => by
        by_cases hm : k ∈ itemTagNames
        · -- the item has a value, so neither base is asked
          rw [← names_itemTags ht] at hm
          obtain ⟨value, hv⟩ := exists_lookup hm
          simp only [hv, Option.some_or]
        · simp only [h k hk hm]
    exact congrArg (fun text => Except.ok ('\n' :: text)) hs

theorem expandKeys_congr (hi : base.indent = other.indent) {body : List Node}
    (h : ∀ k ∈ keywordsOf body, k ∉ itemTagNames → base.get? k = other.get? k)
    (keys : List Text) : r.expandKeys base body keys = r.expandKeys other body keys := by
  induction keys with
  | nil => rfl
  | cons key rest ih => rw [expandKeys, expandKeys, expandItem_congr hi h, ih]

mutual

theorem renderNode_congr (hi : base.indent = other.indent) (node : Node)
    (h : ∀ k ∈ node.baseNames, base.get? k = other.get? k) :
    r.renderNode base node = r.renderNode other node := by
  cases node with
  | text value span => rfl
  | unclosed name span => rfl
  | tag name span => exact congrArg Except.ok (resolve_congr (h name List.mem_cons_self))
  | strayEnd name span => exact congrArg Except.ok (resolve_congr (h _ List.mem_cons_self))
  | block name body span =>
    rw [renderNode, renderNode]
    by_cases hn : name = imagesTable
    · rw [Node.baseNames, if_pos hn] at h
      rw [if_pos hn, if_pos hn]
      exact expandKeys_congr hi (fun k hk hm => h k (List.mem_filter.2 ⟨hk, by simpa using hm⟩)) _
    · rw [Node.baseNames, if_neg hn] at h
      rw [if_neg hn, if_neg hn]
      exact render_congr hi body h

theorem render_congr (hi : base.indent = other.indent) (nodes : List Node)
    (h : ∀ k ∈ baseNames nodes, base.get? k = other.get? k) :
    r.render base nodes = r.render other nodes := by
  cases nodes with
  | nil => rfl
  | cons node rest =>
    have hn := renderNode_congr hi node fun k hk => h k (List.mem_append_left _ hk)
    have hr := render_congr hi rest fun k hk => h k (List.mem_append_right _ hk)
    rw [render, render, hn, hr]

end

mutual

theorem renderNode_of_tableFree (base : Tags) (node : Node) (h : node.holdsTable = false) :
    ∃ text, ∀ r : Renderer, r.renderNode base node = .ok text := by
  cases node with
  | text value span => exact ⟨value, fun _ => by rw [renderNode]⟩
  | unclosed name span => exact ⟨[], fun _ => by rw [renderNode]⟩
  | tag name span => exact ⟨_, fun _ => by rw [renderNode]⟩
  | strayEnd name span => exact ⟨_, fun _ => by rw [renderNode]⟩
  | block name body span =>
    rw [Node.holdsTable, Bool.or_eq_false_iff, beq_eq_false_iff_ne] at h
    obtain ⟨text, ht⟩ := render_of_tableFree base body h.2
    exact ⟨text, fun r => by rw [renderNode, if_neg h.1, ht r]⟩

theorem render_of_tableFree (base : Tags) (nodes : List Node) (h : holdsTable nodes = false) :
    ∃ text, ∀ r : Renderer, r.render base nodes = .ok text := by
  cases nodes with
  | nil => exact ⟨[], fun _ => by rw [render]⟩
  | cons node rest =>
    rw [holdsTable, Bool.or_eq_false_iff] at h
    obtain ⟨text, ht⟩ := renderNode_of_tableFree base node h.1
    obtain ⟨more, hm⟩ := render_of_tableFree base rest h.2
    exact ⟨text ++ more, fun r => by rw [render, ht r, hm r]; rfl⟩

end

/-- Rendering reads the tags that the template names. In a copy of an images table the values of the
item come first, and outside the tables they do not show. -/
theorem render_eq_of_agree (r : Renderer) {base other : Tags} {nodes : List Node}
    (h : ∀ name ∈ indentTag :: baseNames nodes, base.get? name = other.get? name) :
    r.render base nodes = r.render other nodes ∧
      (∀ body key last copy, r.expandItem base body key last = .ok copy →
        ∃ tags, r.itemTags base key last = .ok tags ∧ tags.map Prod.fst = itemTagNames ∧
          copy = '\n' :: substitute (fun name => (tags.lookup name).or (base.get? name)) body) ∧
      (holdsTable nodes = false → ∀ r' : Renderer, r'.render base nodes = r.render base nodes) := by
  refine ⟨?_, fun body key last copy hc => ?_, fun hn r' => ?_⟩
  · have hi : base.indent = other.indent := by
      rw [Tags.indent, Tags.indent, h indentTag List.mem_cons_self]
    exact render_congr hi nodes fun name hm => h name (List.mem_cons_of_mem _ hm)
  · rw [expandItem_eq] at hc
    cases ht : r.itemTags base key last with
    | error e => rw [ht] at hc; cases hc
    | ok tags =>
      rw [ht] at hc
      cases hc
      exact ⟨tags, rfl, names_itemTags ht, rfl⟩
  · obtain ⟨text, ht⟩ := render_of_tableFree base nodes hn
    rw [ht r', ht r]

def grayDot : Renderer where
  items := ⟨["k".toList], fun _ => some ⟨1, 1, #[⟨127, 127, 127, 255⟩], by decide⟩⟩
  pipeline := .standard
  preset := {}

/-- `@width@`, and an images table with `@charText@`, `@mark@` and a block. -/
def sizeTemplate : List Node :=
  [.tag "width".toList ⟨0, 7⟩,
    .block imagesTable [.tag "charText".toList ⟨33, 43⟩, .tag "mark".toList ⟨43, 49⟩,
      .block "a".toList [.tag "width".toList ⟨64, 71⟩] ⟨49, 84⟩] ⟨7, 108⟩]

def sizeTags : Tags := .ofList [("mark".toList, [':']), ("width".toList, ['9'])]

def moreTags : Tags :=
  .ofList [("charText".toList, ['?']), ("mark".toList, [':']), ("title".toList, ['T']),
    ("width".toList, ['9'])]

theorem render_eq_of_agree_sizeTemplate :
    (∀ name ∈ indentTag :: baseNames sizeTemplate, sizeTags.get? name = moreTags.get? name) ∧
      grayDot.render sizeTags sizeTemplate = grayDot.render moreTags sizeTemplate ∧
      grayDot.render sizeTags sizeTemplate =
        .ok ("9\nk:".toList ++ undefinedValue ++ ['1'] ++ undefinedValue) := by
  have h : ∀ name ∈ indentTag :: baseNames sizeTemplate,
      sizeTags.get? name = moreTags.get? name := by decide
  exact ⟨h, (grayDot.render_eq_of_agree h).1, by cbv⟩

end Renderer

end RasterText
