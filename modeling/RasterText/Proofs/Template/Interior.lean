import RasterText.Proofs.Template.Nesting
import RasterText.Proofs.Template.Outline
set_option autoImplicit false

/-!
The body of a block and the text between its two markers. The parser takes a body out of the lexemes
of the whole template and trims its nodes. The same nodes are read from the text between the markers
alone, once that text is trimmed.
-/

namespace RasterText

inductive Node.Occurs (node : Node) : List Node → Prop
  | here {nodes : List Node} (h : node ∈ nodes) : Node.Occurs node nodes
  | inside {name : Text} {body nodes : List Node} {span : Span}
      (h : .block name body span ∈ nodes) (hn : Node.Occurs node body) : Node.Occurs node nodes

/-- The text between the markers of a block that covers the span. -/
def Interior (s name : Text) (span : Span) (interior : Text) : Prop :=
  ∃ opener ∈ lex s, ∃ closer ∈ lex s, opener.token = .blockStart name ∧
    closer.token = .blockEnd name ∧ span = ⟨opener.span.start, closer.span.stop⟩ ∧
    Holds 0 s ⟨opener.span.stop, closer.span.start⟩ interior

mutual

def Node.OpenedOnce : Node → Prop
  | .block name body _ => .blockStart name ∉ flattenNodes body ∧ OpenedOnce body
  | _ => True

def OpenedOnce : List Node → Prop
  | [] => True
  | node :: rest => node.OpenedOnce ∧ OpenedOnce rest

end

section Cutting

variable {start : Nat} {s : Text} {front inner back : List Lexeme} {x y : Lexeme}

theorem not_mem_textLexeme (hx : x.token.keyword ≠ none) : x ∉ textLexeme start s := by
  intro hm
  rw [(mem_textLexeme.1 hm).2] at hx
  exact hx rfl

theorem exists_of_lexFrom_eq (h : lexFrom start s = front ++ x :: back)
    (hx : x.token.keyword ≠ none) : ∃ before m rest, s = before ++ (m.written ++ rest) ∧
      x = markerLexeme start before m ∧ front = lexFrom start before ∧
        back = lexFrom x.span.stop rest := by
  induction s using firstMarker?_induction generalizing start front with
  | last s hs =>
    rw [lexFrom_of_none hs] at h
    have hm : x ∈ textLexeme start s := by rw [h]; simp
    exact absurd hm (not_mem_textLexeme hx)
  | next s before m rest hs ih =>
    have hfirst : s = before ++ (m.written ++ rest) := (firstMarker?_eq_some hs).2
    have hbefore := lexFrom_of_none (firstMarker?_before hs) start
    have hall : textLexeme start before ++ markerLexeme start before m ::
        lexFrom (markerLexeme start before m).span.stop rest = front ++ x :: back :=
      (lexFrom_of_some hs start).symm.trans h
    rcases List.append_eq_append_iff.1 hall with ⟨more, rfl, hm⟩ | ⟨more, hm, hr⟩
    · cases more with
      | nil =>
        obtain ⟨rfl, rfl⟩ := List.cons.inj hm
        exact ⟨before, m, rest, hfirst, rfl, by rw [hbefore, List.append_nil], rfl⟩
      | cons first more =>
        obtain ⟨rfl, hrest⟩ := List.cons.inj hm
        obtain ⟨before', m', rest', rfl, rfl, hmore, hback⟩ := ih hrest
        have htake : firstMarker? (before ++ (m.written ++ before')) =
            some (before, m, before') := by
          rw [hfirst] at hs
          exact firstMarker?_take hs
        refine ⟨before ++ (m.written ++ before'), m', rest', by simp [hfirst], ?_, ?_, hback⟩
        · simp [markerLexeme, Nat.add_assoc]
        · rw [hmore]
          exact (lexFrom_of_some htake start).symm
    · cases more with
      | nil =>
        obtain ⟨rfl, rfl⟩ := List.cons.inj hr
        exact ⟨before, m, rest, hfirst, rfl, by rw [hbefore, hm, List.append_nil], rfl⟩
      | cons first more =>
        obtain ⟨rfl, -⟩ := List.cons.inj hr
        have hx' : x ∈ textLexeme start before := by rw [hm]; simp
        exact absurd hx' (not_mem_textLexeme hx)

theorem exists_interior (h : lexFrom start s = front ++ x :: (inner ++ y :: back))
    (hx : x.token.keyword ≠ none) (hy : y.token.keyword ≠ none) :
    ∃ interior, Holds start s ⟨x.span.stop, y.span.start⟩ interior ∧
      inner = lexFrom x.span.stop interior := by
  obtain ⟨before, m, rest, rfl, rfl, -, hrest⟩ := exists_of_lexFrom_eq h hx
  obtain ⟨interior, m', rest', rfl, rfl, hinner, -⟩ := exists_of_lexFrom_eq hrest.symm hy
  refine ⟨interior, ⟨before ++ m.written, m'.written ++ rest', by simp, ?_⟩, hinner⟩
  simp [markerLexeme, Nat.add_assoc]

theorem Interior.unique {s name other : Text} {span : Span} {interior more : Text}
    (h : Interior s name span interior) (ho : Interior s other span more) : more = interior := by
  obtain ⟨opener, hx, closer, hy, -, -, rfl, hi⟩ := h
  obtain ⟨opener', hx', closer', hy', -, -, hspan, hm⟩ := ho
  have ht := (leftmostFrom_lex s).tiles
  have bounds {z : Lexeme} (hz : z ∈ lex s) := ht.bounds (List.mem_map_of_mem hz)
  simp only [Span.mk.injEq] at hspan
  have hx0 := bounds hx
  have hx0' := bounds hx'
  have hy0 := bounds hy
  have hy0' := bounds hy'
  have hfirst : opener.span.start ≤ opener.span.start ∧ opener.span.start < opener.span.stop := by
    omega
  have hlast : closer.span.start ≤ closer.span.stop - 1 ∧
      closer.span.stop - 1 < closer.span.stop := by omega
  obtain rfl : opener = opener' := ht.lexeme_unique hx hx' hfirst (by omega)
  obtain rfl : closer = closer' := ht.lexeme_unique hy hy' hlast (by omega)
  exact hi.unique hm

end Cutting

section Trees

variable {name : Text} {body nodes rest : List Node} {span : Span} {node : Node}

theorem mem_trimBody (h : node.isText = false) : node ∈ trimBody nodes ↔ node ∈ nodes := by
  have hm (l : List Node) : node ∈ markerNodes l ↔ node ∈ l := by simp [markerNodes, h]
  rw [← hm, markerNodes_trimBody, hm]

namespace Node.Occurs

theorem of_trimBody (h : (Node.block name body span).Occurs (trimBody nodes)) :
    (Node.block name body span).Occurs nodes := by
  cases h with
  | here h => exact .here ((mem_trimBody rfl).1 h)
  | inside h hn => exact .inside ((mem_trimBody rfl).1 h) hn

theorem cons_iff {first : Node} : node.Occurs (first :: rest) ↔ node = first ∨
    (∃ name body span, first = .block name body span ∧ node.Occurs body) ∨ node.Occurs rest := by
  constructor
  · intro h
    cases h with
    | here h =>
      rcases List.mem_cons.1 h with h | h
      · exact .inl h
      · exact .inr (.inr (.here h))
    | inside h hn =>
      rcases List.mem_cons.1 h with h | h
      · exact .inr (.inl ⟨_, _, _, h.symm, hn⟩)
      · exact .inr (.inr (.inside h hn))
  · rintro (rfl | ⟨name, body, span, rfl, hn⟩ | h)
    · exact .here List.mem_cons_self
    · exact .inside List.mem_cons_self hn
    · cases h with
      | here h => exact .here (List.mem_cons_of_mem _ h)
      | inside h hn => exact .inside (List.mem_cons_of_mem _ h) hn

end Node.Occurs

theorem exists_level_of_occurs (enclosing : List (Text × Span)) (l : List Lexeme)
    (h : (Node.block name body span).Occurs (parseLevel enclosing l).1) :
    ∃ around front p inner stop back,
      l = front ++ ⟨.blockStart name, p⟩ :: (inner ++ ⟨.blockEnd name, stop⟩ :: back) ∧
        span = ⟨p.start, stop.stop⟩ ∧ body = trimBody (parseLevel around inner).1 := by
  induction enclosing, l using level_induction with
  | nil enclosing =>
    rw [parseLevel] at h
    cases h with
    | here h | inside h _ => cases h
  | past enclosing x rest hx ih =>
    rw [parseLevel_past hx] at h
    rcases Node.Occurs.cons_iff.1 h with h | ⟨other, inner, place, hs, -⟩ | h
    · obtain ⟨token, p⟩ := x
      cases token <;> cases h
    · obtain ⟨token, p⟩ := x
      cases token <;> cases hs
    · obtain ⟨around, front, p, inner, stop, back, rfl, hspan, hbody⟩ := ih h
      exact ⟨around, x :: front, p, inner, stop, back, rfl, hspan, hbody⟩
  | block enclosing other q level last after hb ihb iha =>
    rw [parseLevel_block hb] at h
    rcases Node.Occurs.cons_iff.1 h with h | ⟨_, _, _, hs, h⟩ | h
    · cases h
      exact ⟨enclosing ++ [(name, q)], [], q, level, last, after, rfl, rfl, rfl⟩
    · cases hs
      obtain ⟨around, front, p, inner, stop, back, rfl, hspan, hbody⟩ := ihb h.of_trimBody
      exact ⟨around, ⟨.blockStart other, q⟩ :: front, p, inner, stop,
        back ++ ⟨.blockEnd other, last⟩ :: after, by simp, hspan, hbody⟩
    · obtain ⟨around, front, p, inner, stop, back, rfl, hspan, hbody⟩ := iha h
      exact ⟨around, ⟨.blockStart other, q⟩ :: (level ++ ⟨.blockEnd other, last⟩ :: front), p,
        inner, stop, back, by simp, hspan, hbody⟩

theorem exists_interior_of_occurs {s : Text}
    (h : (Node.block name body span).Occurs (parseLevel [] (lex s)).1) :
    ∃ interior, Interior s name span interior ∧ bareNodes body = outline (Text.trim interior) := by
  obtain ⟨around, front, p, inner, stop, back, hl, rfl, rfl⟩ := exists_level_of_occurs [] (lex s) h
  obtain ⟨interior, hi, rfl⟩ := exists_interior hl (by simp [Token.keyword])
    (by simp [Token.keyword])
  refine ⟨interior, ⟨_, ?_, _, ?_, rfl, rfl, rfl, hi⟩, bareNodes_trimBody around p.stop interior⟩
  · rw [hl]; simp
  · rw [hl]; simp

theorem OpenedOnce.of_mem (h : OpenedOnce nodes) (hn : node ∈ nodes) : node.OpenedOnce := by
  induction nodes with
  | nil => cases hn
  | cons first rest ih =>
    rcases List.mem_cons.1 hn with rfl | hn
    · exact h.1
    · exact ih h.2 hn

theorem OpenedOnce.body_of_occurs (h : OpenedOnce nodes)
    (ho : (Node.block name body span).Occurs nodes) : OpenedOnce body := by
  induction ho with
  | here hn => exact (h.of_mem hn).2
  | inside hn _ ih => exact ih (h.of_mem hn).2

mutual

theorem Node.flatten_bare (node : Node) : node.bare.flatten = node.flatten := by
  cases node with
  | block name body span => rw [Node.bare, Node.flatten, Node.flatten, flattenNodes_bareNodes body]
  | _ => rfl

theorem flattenNodes_bareNodes (nodes : List Node) :
    flattenNodes (bareNodes nodes) = flattenNodes nodes := by
  cases nodes with
  | nil => rfl
  | cons node rest =>
    rw [bareNodes, flattenNodes, flattenNodes, Node.flatten_bare node, flattenNodes_bareNodes rest]

end

mutual

theorem Node.openedOnce_bare (node : Node) : node.bare.OpenedOnce ↔ node.OpenedOnce := by
  cases node with
  | block name body span =>
    rw [Node.bare, Node.OpenedOnce, Node.OpenedOnce, flattenNodes_bareNodes,
      openedOnce_bareNodes body]
  | _ => rfl

theorem openedOnce_bareNodes (nodes : List Node) :
    OpenedOnce (bareNodes nodes) ↔ OpenedOnce nodes := by
  cases nodes with
  | nil => rfl
  | cons node rest =>
    rw [bareNodes, OpenedOnce, OpenedOnce, Node.openedOnce_bare node, openedOnce_bareNodes rest]

end

theorem openedOnce_trimBody (body : List Node) : OpenedOnce (trimBody body) ↔ OpenedOnce body := by
  have h (nodes : List Node) : OpenedOnce (markerNodes nodes) ↔ OpenedOnce nodes := by
    induction nodes with
    | nil => rfl
    | cons n rest ih =>
      cases n with
      | text value span => simpa [markerNodes_cons_text, Node.isText, OpenedOnce, Node.OpenedOnce]
      | _ => exact and_congr .rfl ih
  rw [← h, markerNodes_trimBody, h]

theorem markersOf_trimBody (body : List Node) : markersOf (trimBody body) = markersOf body := by
  have h (nodes : List Node) : markersOf (markerNodes nodes) = markersOf nodes := by
    induction nodes with
    | nil => rfl
    | cons n rest ih =>
      cases hn : n.isText with
      | true => rw [markerNodes_cons_text hn, markersOf_text hn, ih]
      | false =>
        have hc : markerNodes (n :: rest) = n :: markerNodes rest := by simp [markerNodes, hn]
        rw [hc, markersOf_cons, ih, ← markersOf_cons]
  rw [← h, markerNodes_trimBody, h]

end Trees

def StartFree (name : Text) (l : List Lexeme) : Prop := ∀ x ∈ l, x.token ≠ .blockStart name

section Faults

variable {enclosing : List (Text × Span)} {l body : List Lexeme} {name : Text}

theorem startFree_cons {x : Lexeme} :
    StartFree name (x :: l) ↔ x.token ≠ .blockStart name ∧ StartFree name l := by
  simp [StartFree]

theorem startFree_append {more : List Lexeme} :
    StartFree name (l ++ more) ↔ StartFree name l ∧ StartFree name more := by
  simp [StartFree, or_imp, forall_and]

theorem nestedIn_eq_nil {p : Span} :
    nestedIn enclosing name p = [] ↔ ∀ e ∈ enclosing, e.1 ≠ name := by
  unfold nestedIn
  split
  · next other outer h =>
    have he : other = name := by simpa using List.find?_some h
    simp only [List.cons_ne_self, false_iff, not_forall]
    exact ⟨_, List.mem_of_find?_eq_some h, fun hn => hn he⟩
  · next h => simpa using h

theorem faults_moment_eq_nil {x : Lexeme} : Moment.faults ⟨enclosing, x :: l⟩ = [] ↔
    ∀ e ∈ enclosing, x.token ≠ .blockStart e.1 := by
  obtain ⟨token, p⟩ := x
  cases token with
  | blockStart name =>
    simp only [Moment.faults, ne_eq, Token.blockStart.injEq, @eq_comm _ name]
    exact nestedIn_eq_nil
  | _ => simp [Moment.faults]

theorem startFree_iff (h : ∀ x ∈ l, x.token ≠ .text []) :
    StartFree name l ↔ .blockStart name ∉ flattenNodes (trimBody (parseLevel enclosing l).1) := by
  have hm (nodes : List Node) : .blockStart name ∈ flattenNodes nodes ↔
      .blockStart name ∈ markersOf nodes := by simp [markersOf, Token.keyword]
  rw [hm, markersOf_trimBody, (flattens_parseLevel enclosing l h).markersOf_eq]
  simp [StartFree, Token.keyword]

theorem faults_eq_nil_iff (enclosing : List (Text × Span)) (l : List Lexeme)
    (hne : ∀ x ∈ l, x.token ≠ .text []) : (parseLevel enclosing l).2 = [] ↔
      OpenedOnce (parseLevel enclosing l).1 ∧ ∀ e ∈ enclosing, StartFree e.1 l := by
  induction enclosing, l using level_induction with
  | nil enclosing => simp [parseLevel, OpenedOnce, StartFree]
  | past enclosing x rest h ih =>
    have hsingle : x.single.OpenedOnce := by
      obtain ⟨token, p⟩ := x
      cases token <;> trivial
    have ih := ih fun y hy => hne y (by simp [hy])
    simp only [parseLevel_past h, List.append_eq_nil_iff, faults_moment_eq_nil, ih, OpenedOnce,
      hsingle, true_and, startFree_cons, forall₂_and]
    exact and_left_comm
  | block enclosing name p body stop after h ihb iha =>
    have hb : ∀ x ∈ body, x.token ≠ .text [] := fun x hx => hne x (by simp [hx])
    have ihb := ihb hb
    have iha := iha fun x hx => hne x (by simp [hx])
    have hstart (other : Text) : Token.blockStart name ≠ .blockStart other ↔ other ≠ name := by
      rw [ne_eq, Token.blockStart.injEq, ne_comm, ne_eq]
    simp only [parseLevel_block h, List.append_eq_nil_iff, nestedIn_eq_nil, ihb, iha, OpenedOnce,
      Node.OpenedOnce, openedOnce_trimBody, ← startFree_iff hb, startFree_cons, startFree_append,
      hstart, List.forall_mem_append, List.forall_mem_singleton, forall₂_and]
    constructor
    · rintro ⟨⟨hnested, hinner, hbody, hname⟩, hrest, hafter⟩
      exact ⟨⟨⟨hname, hinner⟩, hrest⟩, hnested, hbody, by simp, hafter⟩
    · rintro ⟨⟨⟨hname, hinner⟩, hrest⟩, hnested, hbody, -, hafter⟩
      exact ⟨⟨hnested, hinner, hbody, hname⟩, hrest, hafter⟩

theorem parse_eq_ok_iff {s : Text} {nodes : List Node} : parse s = .ok nodes ↔
    nodes = (parseLevel [] (lex s)).1 ∧ OpenedOnce nodes := by
  have hne := faults_eq_nil_iff [] (lex s) (lexFrom_ne_empty 0 s)
  unfold parse
  split
  · next other hp =>
    rw [hp] at hne ⊢
    simp only [Except.ok.injEq, eq_comm (a := other)]
    refine ⟨fun h => ⟨h, ?_⟩, And.left⟩
    rw [h]
    exact (hne.1 rfl).1
  · next fault faults hp =>
    rw [hp] at hne ⊢
    simp only [reduceCtorEq, false_iff, not_and]
    rintro rfl h
    simpa using hne.2 ⟨h, by simp⟩

end Faults

/-- The body of every block, at any depth, is the tree that the text between its two markers has
alone, once it is trimmed; and that text is a template without faults. -/
theorem parse_interior (s : Text) (nodes : List Node) (h : parse s = .ok nodes) (name : Text)
    (body : List Node) (span : Span) (ho : (Node.block name body span).Occurs nodes) :
    (∃ interior, Interior s name span interior) ∧
      ∀ interior, Interior s name span interior →
        ∃ inner, parse (Text.trim interior) = .ok inner ∧ bareNodes inner = bareNodes body := by
  obtain ⟨rfl, honce⟩ := parse_eq_ok_iff.1 h
  obtain ⟨interior, hi, hb⟩ := exists_interior_of_occurs ho
  refine ⟨⟨interior, hi⟩, fun other hother => ?_⟩
  obtain rfl := hi.unique hother
  refine ⟨_, parse_eq_ok_iff.2 ⟨rfl, ?_⟩, hb.symm⟩
  rw [← openedOnce_bareNodes, ← outline, ← hb, openedOnce_bareNodes]
  exact honce.body_of_occurs ho

def slicedInterior : Text := " \n@abc $(start_block_y) $(t) $(end_block_y) ".toList

def slicedTemplate : Text :=
  "a@start_block_x@".toList ++ (slicedInterior ++ "$(end_block_x)b".toList)

def slicedBody : List Node :=
  [.text "@abc ".toList ⟨16, 23⟩, .block ['y'] [.tag ['t'] ⟨40, 44⟩] ⟨23, 59⟩]

theorem parse_interior_sliced :
    let nodes : List Node :=
      [.text ['a'] ⟨0, 1⟩, .block ['x'] slicedBody ⟨1, 74⟩, .text ['b'] ⟨74, 75⟩]
    parse slicedTemplate = .ok nodes ∧ (Node.block ['x'] slicedBody ⟨1, 74⟩).Occurs nodes ∧
      Interior slicedTemplate ['x'] ⟨1, 74⟩ slicedInterior ∧
      ∃ inner, parse (Text.trim slicedInterior) = .ok inner ∧
        bareNodes inner = bareNodes slicedBody := by
  intro nodes
  have hp : parse slicedTemplate = .ok nodes := by cbv
  have ho : (Node.block ['x'] slicedBody ⟨1, 74⟩).Occurs nodes := .here (by simp [nodes])
  have hl : lex slicedTemplate = [⟨.text ['a'], ⟨0, 1⟩⟩, ⟨.blockStart ['x'], ⟨1, 16⟩⟩,
      ⟨.text " \n@abc ".toList, ⟨16, 23⟩⟩, ⟨.blockStart ['y'], ⟨23, 39⟩⟩, ⟨.text [' '], ⟨39, 40⟩⟩,
      ⟨.tag ['t'], ⟨40, 44⟩⟩, ⟨.text [' '], ⟨44, 45⟩⟩, ⟨.blockEnd ['y'], ⟨45, 59⟩⟩,
      ⟨.text [' '], ⟨59, 60⟩⟩, ⟨.blockEnd ['x'], ⟨60, 74⟩⟩, ⟨.text ['b'], ⟨74, 75⟩⟩] := by cbv
  have hi : Interior slicedTemplate ['x'] ⟨1, 74⟩ slicedInterior :=
    ⟨⟨.blockStart ['x'], ⟨1, 16⟩⟩, by simp [hl], ⟨.blockEnd ['x'], ⟨60, 74⟩⟩, by simp [hl], rfl,
      rfl, rfl, "a@start_block_x@".toList, "$(end_block_x)b".toList, rfl, by decide⟩
  exact ⟨hp, ho, hi, (parse_interior slicedTemplate nodes hp _ _ _ ho).2 slicedInterior hi⟩

end RasterText
