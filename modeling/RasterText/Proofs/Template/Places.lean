import Mathlib.Data.List.DropRight
import RasterText.Proofs.Template.Interior
set_option autoImplicit false

/-!
The places of the nodes of a tree. The nodes at top level tile the template, the nodes of a body
tile the text between the markers of its block but for blanks at the two ends, and every node stands
at the token or the pair of markers that it was read from.
-/

namespace RasterText

def Node.span : Node → Span
  | .text _ span | .tag _ span | .block _ _ span | .unclosed _ span | .strayEnd _ span => span

def TextAt (s slice : Text) (span : Span) : Prop :=
  ⟨.text slice, span⟩ ∈ lex s ∧ Holds 0 s span slice

def MarkerAt (s : Text) (t : Token) (span : Span) : Prop :=
  ⟨t, span⟩ ∈ lex s ∧ ∃ m : Marker, m.Complete ∧ t.keyword = some m.name ∧ Holds 0 s span m.written

def BlankBetween (s : Text) (start stop : Nat) : Prop :=
  ∃ gap, Holds 0 s ⟨start, stop⟩ gap ∧ ∀ c ∈ gap, isBlank c = true

/-- The body of a block with markers at two spans. -/
structure BodyAt (s : Text) (opener closer : Span) (body : List Node) : Prop where
  /-- The nodes lie end to end, and only blanks stand around them. -/
  covers : ∃ first last, BlankBetween s opener.stop first ∧ Tiles first (body.map Node.span) last ∧
    BlankBetween s last closer.start
  /-- A text has lost blanks at its start only as the first node, and at its end only as the last
  one. -/
  texts : ∀ value span, .text value span ∈ body → ∃ lead trail,
    TextAt s (lead ++ (value ++ trail)) span ∧ (∀ c ∈ lead ++ trail, isBlank c = true) ∧
      (lead ≠ [] → body.head? = some (.text value span)) ∧
      (trail ≠ [] → body.getLast? = some (.text value span))

/-- The node stands where it was read; what it holds is told of it by its level. -/
def Node.Placed (s : Text) : Node → Prop
  | .text _ span => ∃ slice, TextAt s slice span
  | .tag name span => MarkerAt s (.tag name) span
  | .unclosed name span => MarkerAt s (.blockStart name) span
  | .strayEnd name span => MarkerAt s (.blockEnd name) span
  | .block name body span => ∃ opener closer, MarkerAt s (.blockStart name) opener ∧
      MarkerAt s (.blockEnd name) closer ∧ span = ⟨opener.start, closer.stop⟩ ∧
      BodyAt s opener closer body

section Tokens

variable {s slice : Text} {x : Lexeme} {name : Text} {start stop : Nat}

theorem textAt_of_mem (hx : x ∈ lex s) (ht : x.token = .text slice) : TextAt s slice x.span :=
  ⟨by rw [← ht]; exact hx, ((leftmostFrom_lex s).text x hx slice ht).2⟩

theorem markerAt_of_mem (hx : x ∈ lex s) (hk : x.token.keyword ≠ none) :
    MarkerAt s x.token x.span := by
  obtain ⟨name, hk⟩ := Option.ne_none_iff_exists'.1 hk
  obtain ⟨-, m, hm, hn, hp⟩ := (leftmostFrom_lex s).marker x hx name hk
  exact ⟨hx, m, hm, by rw [hk, hn], hp⟩

theorem BlankBetween.refl_stop {span : Span} (h : Holds 0 s span slice) :
    BlankBetween s span.stop span.stop := by
  obtain ⟨front, back, rfl, rfl⟩ := h
  exact ⟨[], ⟨front ++ slice, back, by simp, by simp⟩, by simp⟩

theorem BlankBetween.refl_start {span : Span} (h : Holds 0 s span slice) :
    BlankBetween s span.start span.start := by
  obtain ⟨front, back, rfl, rfl⟩ := h
  exact ⟨[], ⟨front, slice ++ back, by simp, by simp⟩, by simp⟩

end Tokens

section Levels

variable {enclosing : List (Text × Span)} {l : List Lexeme} {start stop : Nat} {s : Text}

@[simp] theorem span_single (x : Lexeme) : x.single.span = x.span := by
  obtain ⟨token, p⟩ := x
  cases token <;> rfl

theorem tiles_parseLevel (enclosing : List (Text × Span)) (l : List Lexeme)
    (h : Tiles start (l.map Lexeme.span) stop) :
    Tiles start ((parseLevel enclosing l).1.map Node.span) stop := by
  induction enclosing, l using level_induction generalizing start with
  | nil enclosing =>
    rw [parseLevel]
    exact h
  | past enclosing x rest hx ih =>
    rw [parseLevel_past hx, List.map_cons, span_single]
    exact ⟨h.1, h.2.1, ih h.2.2⟩
  | block enclosing name p body last after hb ihb iha =>
    rw [parseLevel_block hb]
    have hall := h
    rw [List.map_cons, List.map_append, List.map_cons] at hall
    obtain ⟨hstart, hp, hrest⟩ := hall
    obtain ⟨hbody, hafter⟩ := hrest.split
    have hmem : last ∈ (body ++ ⟨.blockEnd name, last⟩ :: after).map Lexeme.span := by simp
    have hlast := (h.2.2.bounds hmem)
    simp only at hstart hp
    have hlt : p.start < last.stop := by
      have hp' : p.stop ≤ last.start := hlast.1
      omega
    exact ⟨hstart, hlt, iha hafter⟩

theorem exists_single_of_mem {node : Node} (enclosing : List (Text × Span)) (l : List Lexeme)
    (h : node ∈ (parseLevel enclosing l).1) (hn : node.blockName? = none) :
    ∃ x ∈ l, x.single = node := by
  induction enclosing, l using level_induction with
  | nil enclosing => simp [parseLevel] at h
  | past enclosing x rest hx ih =>
    rw [parseLevel_past hx, List.mem_cons] at h
    rcases h with rfl | h
    · exact ⟨x, List.mem_cons_self, rfl⟩
    · obtain ⟨y, hy, hs⟩ := ih h
      exact ⟨y, List.mem_cons_of_mem x hy, hs⟩
  | block enclosing name p body last after hb ihb iha =>
    rw [parseLevel_block hb, List.mem_cons] at h
    rcases h with rfl | h
    · cases hn
    · obtain ⟨y, hy, hs⟩ := iha h
      exact ⟨y, by simp [hy], hs⟩

theorem textAt_of_mem_parseLevel {value : Text} {span : Span} (hl : ∀ x ∈ l, x ∈ lex s)
    (h : .text value span ∈ (parseLevel enclosing l).1) : TextAt s value span := by
  obtain ⟨⟨token, p⟩, hx, hs⟩ := exists_single_of_mem enclosing l h rfl
  cases token <;> cases hs
  exact textAt_of_mem (hl _ hx) rfl

theorem placed_single {x : Lexeme} (hx : x ∈ lex s) : x.single.Placed s := by
  obtain ⟨token, p⟩ := x
  cases token with
  | text value => exact ⟨value, textAt_of_mem hx rfl⟩
  | _ => exact markerAt_of_mem hx (by simp [Token.keyword])

end Levels

section Trimming

variable {s : Text} {n m : Node} {whole mid : List Node}

theorem trimEdges_single (n : Node) : trimEdges [n] = (n.trimText? Text.trim).toList := by
  cases n with
  | text value span =>
    by_cases hv : Text.trimStart value = []
    · simp [trimEdges, onFirst, onLast, Node.trimText?, Text.trim, hv, Text.trimEnd]
    · by_cases he : Text.trimEnd (Text.trimStart value) = [] <;>
        simp [trimEdges, onFirst, onLast, Node.trimText?, Text.trim, hv, he]
  | _ => rfl

theorem trimEdges_ends (n : Node) (mid : List Node) (m : Node) : trimEdges (n :: (mid ++ [m])) =
    (n.trimText? Text.trimStart).toList ++ (mid ++ (m.trimText? Text.trimEnd).toList) := by
  rw [trimEdges, onFirst, ← List.append_assoc, onLast_append_cons, List.append_assoc]
  rfl

/-- A function that takes blanks away from the ends of a text, as far as `side` allows. -/
def CutsBlanks (f : Text → Text) (side : Text → Text → Prop) : Prop :=
  ∀ value, ∃ lead trail, value = lead ++ (f value ++ trail) ∧
    (∀ c ∈ lead ++ trail, isBlank c = true) ∧ side lead trail

theorem cutsBlanks_trimStart : CutsBlanks Text.trimStart fun _ trail => trail = [] := by
  intro value
  refine ⟨value.takeWhile isBlank, [], ?_, ?_, rfl⟩
  · rw [List.append_nil]
    exact List.takeWhile_append_dropWhile.symm
  · rw [List.append_nil]
    exact fun c => List.mem_takeWhile_imp

theorem cutsBlanks_trimEnd : CutsBlanks Text.trimEnd fun lead _ => lead = [] := by
  intro value
  exact ⟨[], value.rtakeWhile isBlank, List.rdropWhile_append_rtakeWhile.symm,
    fun c => List.mem_rtakeWhile_imp, rfl⟩

theorem cutsBlanks_trim : CutsBlanks Text.trim fun _ _ => True := by
  intro value
  obtain ⟨lead, _, hv, hlead, rfl⟩ := cutsBlanks_trimStart value
  obtain ⟨_, trail, ht, htrail, rfl⟩ := cutsBlanks_trimEnd (Text.trimStart value)
  refine ⟨lead, trail, ?_, ?_, trivial⟩
  · rw [List.append_nil] at hv
    rw [Text.trim, ← List.nil_append (Text.trimEnd _ ++ trail), ← ht]
    exact hv
  · rw [List.append_nil] at hlead
    exact List.forall_mem_append.2 ⟨hlead, htrail⟩

/-- What is left of a node that is trimmed: its whole place, or blanks in its place. -/
def Leaves (s : Text) (start stop : Nat) (left : Option Node) : Prop :=
  Tiles start (left.toList.map Node.span) stop ∨ left = none ∧ BlankBetween s start stop

namespace Leaves

variable {start stop : Nat} {left : Option Node}

theorem exists_first (h : Leaves s start stop left) (hs : BlankBetween s start start) :
    ∃ first, BlankBetween s start first ∧ Tiles first (left.toList.map Node.span) stop := by
  rcases h with ht | ⟨rfl, hblank⟩
  · exact ⟨start, hs, ht⟩
  · exact ⟨stop, hblank, rfl⟩

theorem exists_last (h : Leaves s start stop left) (hs : BlankBetween s stop stop) :
    ∃ last, Tiles start (left.toList.map Node.span) last ∧ BlankBetween s last stop := by
  rcases h with ht | ⟨rfl, hblank⟩
  · exact ⟨stop, ht, hs⟩
  · exact ⟨start, rfl, hblank⟩

end Leaves

section OneNode

variable {f : Text → Text} {side : Text → Text → Prop} (hf : CutsBlanks f side)
variable (ht : ∀ value span, n = .text value span → TextAt s value span)

include hf ht

theorem leaves_trimText? (hlt : n.span.start < n.span.stop) :
    Leaves s n.span.start n.span.stop (n.trimText? f) := by
  cases n with
  | text value span =>
    obtain ⟨lead, trail, hv, hblank, -⟩ := hf value
    by_cases he : f value = []
    · rw [he, List.nil_append] at hv
      exact .inr ⟨if_pos he, value, (ht value span rfl).2, by rw [hv]; exact hblank⟩
    · have hsome : (Node.text value span).trimText? f = some (.text (f value) span) := if_neg he
      rw [hsome]
      exact .inl ⟨rfl, hlt, rfl⟩
  | _ => exact .inl ⟨rfl, hlt, rfl⟩

theorem exists_of_trimText? {value : Text} {span : Span}
    (h : n.trimText? f = some (.text value span)) : ∃ lead trail,
      TextAt s (lead ++ (value ++ trail)) span ∧ (∀ c ∈ lead ++ trail, isBlank c = true) ∧
        side lead trail := by
  cases n with
  | text slice place =>
    obtain ⟨lead, trail, hv, hblank, hside⟩ := hf slice
    simp only [Node.trimText?, Option.ite_none_left_eq_some, Option.some.injEq,
      Node.text.injEq] at h
    obtain ⟨-, rfl, rfl⟩ := h
    exact ⟨lead, trail, by rw [← hv]; exact ht slice place rfl, hblank, hside⟩
  | _ => cases h

end OneNode

section Bodies

variable {opener closer : Span} (hfirst : BlankBetween s opener.stop opener.stop)
variable (hlast : BlankBetween s closer.start closer.start)

include hfirst hlast

theorem bodyAt_single (htiles : Tiles opener.stop [n.span] closer.start)
    (ht : ∀ value span, n = .text value span → TextAt s value span) :
    BodyAt s opener closer (trimEdges [n]) := by
  obtain ⟨hstart, hlt, hstop⟩ := htiles
  have hleft := leaves_trimText? cutsBlanks_trim ht hlt
  rw [hstart, show n.span.stop = closer.start from hstop] at hleft
  rw [trimEdges_single]
  constructor
  case covers =>
    obtain ⟨first, hgap, htiles⟩ := hleft.exists_first hfirst
    exact ⟨first, closer.start, hgap, htiles, hlast⟩
  case texts =>
    intro value span h
    have hs := Option.mem_toList.1 h
    obtain ⟨lead, trail, hat, hblank, -⟩ := exists_of_trimText? cutsBlanks_trim ht hs
    rw [hs]
    exact ⟨lead, trail, hat, hblank, fun _ => rfl, fun _ => rfl⟩

theorem bodyAt_ends
    (htiles : Tiles opener.stop (n.span :: (mid.map Node.span ++ [m.span])) closer.start)
    (ht : ∀ value span, .text value span ∈ n :: (mid ++ [m]) → TextAt s value span) :
    BodyAt s opener closer (trimEdges (n :: (mid ++ [m]))) := by
  obtain ⟨hstart, hlt, hrest⟩ := htiles
  obtain ⟨hmid, hstop⟩ := hrest.split
  have hmlt := (hrest.bounds (List.mem_append_right _ (List.mem_singleton_self _))).2.1
  have hn (value : Text) (span : Span) (h : n = .text value span) : TextAt s value span :=
    ht value span (by simp [h])
  have hm (value : Text) (span : Span) (h : m = .text value span) : TextAt s value span :=
    ht value span (by simp [h])
  have hfront := leaves_trimText? cutsBlanks_trimStart hn hlt
  have hback := leaves_trimText? cutsBlanks_trimEnd hm hmlt
  rw [hstart] at hfront
  rw [show m.span.stop = closer.start from hstop] at hback
  rw [trimEdges_ends]
  constructor
  case covers =>
    obtain ⟨first, hgap, htiles⟩ := hfront.exists_first hfirst
    obtain ⟨last, htiles', hgap'⟩ := hback.exists_last hlast
    refine ⟨first, last, hgap, ?_, hgap'⟩
    rw [List.map_append, List.map_append]
    exact htiles.append (hmid.append htiles')
  case texts =>
    intro value span h
    simp only [List.mem_append, Option.mem_toList] at h
    rcases h with h | h | h
    · obtain ⟨lead, _, hat, hblank, rfl⟩ := exists_of_trimText? cutsBlanks_trimStart hn h
      exact ⟨lead, [], hat, hblank, fun _ => by simp [h], fun hne => absurd rfl hne⟩
    · have hat := ht value span (by simp [h])
      exact ⟨[], [], by simpa using hat, by simp, fun hne => absurd rfl hne,
        fun hne => absurd rfl hne⟩
    · obtain ⟨_, trail, hat, hblank, rfl⟩ := exists_of_trimText? cutsBlanks_trimEnd hm h
      exact ⟨[], trail, hat, hblank, fun hne => absurd rfl hne, fun _ => by simp [h]⟩

theorem bodyAt_trimEdges (htiles : Tiles opener.stop (whole.map Node.span) closer.start)
    (ht : ∀ value span, .text value span ∈ whole → TextAt s value span) :
    BodyAt s opener closer (trimEdges whole) := by
  cases whole with
  | nil => exact ⟨⟨_, _, hfirst, htiles, hlast⟩, fun _ _ h => by cases h⟩
  | cons n rest =>
    rcases List.eq_nil_or_concat' rest with rfl | ⟨mid, m, rfl⟩
    · exact bodyAt_single hfirst hlast htiles fun value span h => ht value span (by simp [h])
    · rw [List.map_cons, List.map_append] at htiles
      exact bodyAt_ends hfirst hlast htiles ht

end Bodies

end Trimming

section Trees

variable {s name : Text} {body nodes : List Node} {span : Span} {node : Node}

theorem Node.Occurs.mem_or_mem_body (h : node.Occurs nodes) : node ∈ nodes ∨
    ∃ name body span, (Node.block name body span).Occurs nodes ∧ node ∈ body := by
  induction h with
  | here h => exact .inl h
  | inside h _ ih =>
    rcases ih with hn | ⟨name, body, span, ho, hn⟩
    · exact .inr ⟨_, _, _, .here h, hn⟩
    · exact .inr ⟨name, body, span, .inside h ho, hn⟩

theorem placed_block (h : (Node.block name body span).Occurs (parseLevel [] (lex s)).1) :
    (Node.block name body span).Placed s := by
  obtain ⟨around, front, p, inner, stop, back, hl, rfl, rfl⟩ := exists_level_of_occurs [] (lex s) h
  have hopener : MarkerAt s (.blockStart name) p :=
    markerAt_of_mem (x := ⟨.blockStart name, p⟩) (by rw [hl]; simp) (by simp [Token.keyword])
  have hcloser : MarkerAt s (.blockEnd name) stop :=
    markerAt_of_mem (x := ⟨.blockEnd name, stop⟩) (by rw [hl]; simp) (by simp [Token.keyword])
  have hinner : ∀ x ∈ inner, x ∈ lex s := fun x hx => by rw [hl]; simp [hx]
  have hne : ∀ x ∈ inner, x.token ≠ .text [] := fun x hx => lexFrom_ne_empty 0 s x (hinner x hx)
  have hempty := isEmptyText_of_flattens (flattens_parseLevel around inner hne) (by simpa using hne)
  have ht := (leftmostFrom_lex s).tiles
  rw [hl, List.map_append, List.map_cons, List.map_append, List.map_cons] at ht
  refine ⟨p, stop, hopener, hcloser, rfl, ?_⟩
  rw [trimBody_eq_trimEdges hempty]
  obtain ⟨-, m, -, -, hp⟩ := hopener
  obtain ⟨-, m', -, -, hp'⟩ := hcloser
  exact bodyAt_trimEdges (.refl_stop hp) (.refl_start hp')
    (tiles_parseLevel around inner ht.split.2.split.1) fun _ _ => textAt_of_mem_parseLevel hinner

theorem placed_of_occurs (h : node.Occurs (parseLevel [] (lex s)).1) : node.Placed s := by
  cases hb : node.blockName? with
  | some name =>
    cases node with
    | block name body span => exact placed_block h
    | _ => cases hb
  | none =>
    rcases h.mem_or_mem_body with hn | ⟨name, body, span, ho, hn⟩
    · obtain ⟨x, hx, rfl⟩ := exists_single_of_mem [] (lex s) hn hb
      exact placed_single hx
    · cases hi : node.isText with
      | true =>
        cases node with
        | text value place =>
          obtain ⟨opener, closer, -, -, -, hbody⟩ := placed_block ho
          obtain ⟨lead, trail, hat, -⟩ := hbody.texts value place hn
          exact ⟨_, hat⟩
        | _ => cases hi
      | false =>
        obtain ⟨around, front, p, inner, stop, back, hl, -, rfl⟩ :=
          exists_level_of_occurs [] (lex s) ho
        obtain ⟨x, hx, rfl⟩ := exists_single_of_mem around inner ((mem_trimBody hi).1 hn) hb
        exact placed_single (by rw [hl]; simp [hx])

end Trees

/-- The nodes at top level tile the template and its texts are as they were read. Every node, at any
depth, stands where it was read: markers at a complete marker with their keyword, and a block from
its start marker to its end marker, with the nodes of its body end to end between them but for
blanks at the two ends, where texts lose blanks and nowhere else. -/
theorem parse_placed (s : Text) (nodes : List Node) (h : parse s = .ok nodes) :
    Tiles 0 (nodes.map Node.span) (Text.byteSize s) ∧
      (∀ value span, .text value span ∈ nodes → TextAt s value span) ∧
      ∀ node : Node, node.Occurs nodes → node.Placed s := by
  obtain ⟨rfl, -⟩ := parse_eq_ok_iff.1 h
  have ht := (leftmostFrom_lex s).tiles
  rw [Nat.zero_add] at ht
  exact ⟨tiles_parseLevel [] (lex s) ht, fun _ _ => textAt_of_mem_parseLevel fun _ hx => hx,
    fun _ => placed_of_occurs⟩

def spacedBody : Text :=
  "é$(b@@start_block_x@\u00a0\n @t) ü \n@end_block_x)@end_block_y@".toList

theorem parse_placed_spacedBody :
    let body : List Node := [.tag ['t'] ⟨25, 28⟩, .text [' ', 'ü'] ⟨28, 33⟩]
    let nodes : List Node :=
      [.text ['é'] ⟨0, 2⟩, .tag ['b'] ⟨2, 6⟩, .block ['x'] body ⟨6, 46⟩, .strayEnd ['y'] ⟨46, 59⟩]
    parse spacedBody = .ok nodes ∧ Tiles 0 (nodes.map Node.span) (Text.byteSize spacedBody) ∧
      (Node.block ['x'] body ⟨6, 46⟩).Placed spacedBody ∧
      (Node.text [' ', 'ü'] ⟨28, 33⟩).Placed spacedBody := by
  intro body nodes
  have h : parse spacedBody = .ok nodes := by cbv
  have hblock : Node.block ['x'] body ⟨6, 46⟩ ∈ nodes := by simp [nodes]
  obtain ⟨htiles, -, hplaced⟩ := parse_placed spacedBody nodes h
  exact ⟨h, htiles, hplaced _ (.here hblock), hplaced _ (.inside hblock (.here (by simp [body])))⟩

end RasterText
