import Mathlib.Data.List.Chain
import RasterText.Proofs.Template.Outline
set_option autoImplicit false

/-!
The leftmost tokenization of a text, told by places in the text and without a scanner: the tokens
tile the text, no two texts are neighbours, and a complete marker that is no token begins inside a
marker that is one. A text has exactly one such tokenization.
-/

namespace RasterText

/-- The spans lie end to end from `start` to `stop`, and none of them is empty. -/
def Tiles (start : Nat) : List Span → Nat → Prop
  | [], stop => start = stop
  | span :: rest, stop => span.start = start ∧ span.start < span.stop ∧ Tiles span.stop rest stop

/-- The characters at the span are `piece`, in a text whose first byte stands at offset `start`. -/
def Holds (start : Nat) (s : Text) (span : Span) (piece : Text) : Prop :=
  ∃ front back, s = front ++ (piece ++ back) ∧
    span = ⟨start + Text.byteSize front, start + Text.byteSize front + Text.byteSize piece⟩

/-- The tokens of a text, whose first byte stands at offset `start`, with complete markers taken
from the left. -/
structure LeftmostFrom (start : Nat) (s : Text) (l : List Lexeme) : Prop where
  tiles : Tiles start (l.map Lexeme.span) (start + Text.byteSize s)
  text : ∀ x ∈ l, ∀ value, x.token = .text value → value ≠ [] ∧ Holds start s x.span value
  apart : l.IsChain fun x y => x.token.keyword = none → y.token.keyword ≠ none
  marker : ∀ x ∈ l, ∀ name, x.token.keyword = some name →
    x.token = .ofIdentifier name ∧
      ∃ m : Marker, m.Complete ∧ m.name = name ∧ Holds start s x.span m.written
  /-- A complete marker anywhere in the text is a token, or begins strictly inside one. -/
  found : ∀ front m back, Marker.Complete m → s = front ++ (m.written ++ back) →
    let here := start + Text.byteSize front
    (∃ x ∈ l, x.token = .ofIdentifier m.name ∧
      x.span = ⟨here, here + Text.byteSize m.written⟩) ∨
    ∃ x ∈ l, x.token.keyword ≠ none ∧ x.span.start < here ∧ here < x.span.stop

theorem byteSize_pos {s : Text} (h : s ≠ []) : 0 < Text.byteSize s := by
  cases s with
  | nil => exact absurd rfl h
  | cons c r =>
    have hc := c.utf8Size_pos
    rw [Text.byteSize_cons]
    omega

theorem eq_nil_of_byteSize {s : Text} (h : Text.byteSize s = 0) : s = [] := by
  by_contra hs
  have hp := byteSize_pos hs
  omega

theorem exists_append_of_byteSize_le {a b c d : Text} (h : a ++ b = c ++ d)
    (hs : Text.byteSize a ≤ Text.byteSize c) : ∃ t, c = a ++ t ∧ b = t ++ d := by
  rcases List.append_eq_append_iff.1 h with ht | ⟨t, rfl, rfl⟩
  · exact ht
  · rw [Text.byteSize_append] at hs
    obtain rfl : t = [] := eq_nil_of_byteSize (by omega)
    exact ⟨[], by simp, by simp⟩

theorem keyword_eq_none {t : Token} : t.keyword = none ↔ ∃ value, t = .text value := by
  cases t <;> simp [Token.keyword]

theorem keyword_ofIdentifier_ne_none (name : Text) : (Token.ofIdentifier name).keyword ≠ none := by
  simp [Token.keyword_ofIdentifier]

namespace Tiles

theorem append {start middle stop : Nat} {front back : List Span} (hf : Tiles start front middle)
    (hb : Tiles middle back stop) : Tiles start (front ++ back) stop := by
  induction front generalizing start with
  | nil => rw [show start = middle from hf]; exact hb
  | cons span front ih => exact ⟨hf.1, hf.2.1, ih hf.2.2⟩

theorem split {start stop : Nat} {front back : List Span} {span : Span}
    (h : Tiles start (front ++ span :: back) stop) :
    Tiles start front span.start ∧ Tiles span.stop back stop := by
  induction front generalizing start with
  | nil => exact ⟨h.1.symm, h.2.2⟩
  | cons first front ih =>
    obtain ⟨hf, hb⟩ := ih h.2.2
    exact ⟨⟨h.1, h.2.1, hf⟩, hb⟩

theorem le {start stop : Nat} {spans : List Span} (h : Tiles start spans stop) : start ≤ stop := by
  induction spans generalizing start with
  | nil => exact Nat.le_of_eq h
  | cons span rest ih =>
    obtain ⟨h1, h2, h3⟩ := h
    have hr := ih h3
    omega

theorem bounds {start stop : Nat} {spans : List Span} (h : Tiles start spans stop) {span : Span}
    (hs : span ∈ spans) : start ≤ span.start ∧ span.start < span.stop ∧ span.stop ≤ stop := by
  induction spans generalizing start with
  | nil => simp at hs
  | cons first rest ih =>
    obtain ⟨h1, h2, h3⟩ := h
    have hle := h3.le
    rcases List.mem_cons.1 hs with rfl | hs
    · omega
    · have hb := ih h3 hs
      omega

theorem lexeme_unique {start stop place : Nat} {l : List Lexeme}
    (h : Tiles start (l.map Lexeme.span) stop) {x y : Lexeme} (hx : x ∈ l) (hy : y ∈ l)
    (hxs : x.span.start ≤ place ∧ place < x.span.stop)
    (hys : y.span.start ≤ place ∧ place < y.span.stop) : x = y := by
  induction l generalizing start with
  | nil => simp at hx
  | cons first rest ih =>
    have hrest : ∀ z ∈ rest, first.span.stop ≤ z.span.start := fun z hz =>
      (h.2.2.bounds (List.mem_map_of_mem hz)).1
    rcases List.mem_cons.1 hx with hx | hx <;> rcases List.mem_cons.1 hy with hy | hy
    · rw [hx, hy]
    · have hz := hrest y hy
      rw [← hx] at hz
      omega
    · have hz := hrest x hx
      rw [← hy] at hz
      omega
    · exact ih h.2.2 hx hy

theorem pairwise_lexemes {start stop : Nat} {l : List Lexeme}
    (h : Tiles start (l.map Lexeme.span) stop) : l.Pairwise fun x y =>
      x.span.start < y.span.start ∧ x.span.stop ≤ y.span.start := by
  induction l generalizing start with
  | nil => exact .nil
  | cons x rest ih =>
    refine .cons (fun y hy => ?_) (ih h.2.2)
    have hx := h.2.1
    have hb := h.2.2.bounds (List.mem_map_of_mem hy)
    omega

end Tiles

namespace Holds

variable {start : Nat} {s piece : Text} {span : Span}

theorem append_left (pre : Text) (h : Holds (start + Text.byteSize pre) s span piece) :
    Holds start (pre ++ s) span piece := by
  obtain ⟨front, back, rfl, rfl⟩ := h
  exact ⟨pre ++ front, back, by simp, by simp [Nat.add_assoc]⟩

theorem of_append_left {pre : Text} (h : Holds start (pre ++ s) span piece)
    (hs : start + Text.byteSize pre ≤ span.start) :
    Holds (start + Text.byteSize pre) s span piece := by
  obtain ⟨front, back, he, rfl⟩ := h
  obtain ⟨t, rfl, rfl⟩ := exists_append_of_byteSize_le he (by simpa using hs)
  exact ⟨t, back, rfl, by simp [Nat.add_assoc]⟩

theorem of_append_right {post : Text} (h : Holds start (s ++ post) span piece)
    (hs : span.stop ≤ start + Text.byteSize s) : Holds start s span piece := by
  obtain ⟨front, back, he, rfl⟩ := h
  rw [← List.append_assoc] at he
  simp only at hs
  obtain ⟨t, ht, -⟩ := exists_append_of_byteSize_le he.symm
    (by rw [Text.byteSize_append]; omega)
  exact ⟨front, t, by rw [ht, List.append_assoc], rfl⟩

theorem eq_of_span (h : Holds start s span piece) (h1 : span.start = start)
    (h2 : span.stop = start + Text.byteSize s) : piece = s := by
  obtain ⟨front, back, rfl, rfl⟩ := h
  simp only [Text.byteSize_append] at h1 h2
  obtain rfl : front = [] := eq_nil_of_byteSize (by omega)
  obtain rfl : back = [] := eq_nil_of_byteSize (by omega)
  simp

theorem unique {other : Text} (h : Holds start s span piece) (ho : Holds start s span other) :
    other = piece := by
  obtain ⟨front, back, hs, hspan⟩ := h
  obtain ⟨front', back', hs', hspan'⟩ := ho
  rw [hspan, Span.mk.injEq] at hspan'
  obtain ⟨hstart, hstop⟩ := hspan'
  obtain ⟨t, rfl, ht⟩ := exists_append_of_byteSize_le (hs.symm.trans hs') (by omega)
  rw [Text.byteSize_append] at hstart hstop
  obtain rfl : t = [] := eq_nil_of_byteSize (by omega)
  rw [List.nil_append] at ht
  obtain ⟨t, rfl, -⟩ := exists_append_of_byteSize_le ht (by omega)
  rw [Text.byteSize_append] at hstop
  obtain rfl : t = [] := eq_nil_of_byteSize (by omega)
  exact List.append_nil piece

end Holds

theorem tiles_textLexeme (start : Nat) (s : Text) :
    Tiles start ((textLexeme start s).map Lexeme.span) (start + Text.byteSize s) := by
  by_cases h : s = []
  · simp [textLexeme, h, Tiles]
  · have hp := byteSize_pos h
    simp [textLexeme, h, Tiles, hp]

theorem mem_textLexeme {start : Nat} {s : Text} {x : Lexeme} :
    x ∈ textLexeme start s ↔
      s ≠ [] ∧ x = ⟨.text s, ⟨start, start + Text.byteSize s⟩⟩ := by
  by_cases h : s = [] <;> simp [textLexeme, h]

theorem leftmostFrom_of_none {start : Nat} {s : Text} {l : List Lexeme}
    (h : firstMarker? s = none) : LeftmostFrom start s l ↔ l = textLexeme start s := by
  have hno := firstMarker?_eq_none_iff.1 h
  constructor
  · intro hl
    have htext : ∀ x ∈ l, x.token.keyword = none := by
      intro x hx
      by_contra hk
      obtain ⟨name, hk⟩ := Option.ne_none_iff_exists'.1 hk
      obtain ⟨-, m, hm, -, front, back, hs, -⟩ := hl.marker x hx name hk
      exact hno front m back hm hs
    cases l with
    | nil =>
      obtain rfl : s = [] := eq_nil_of_byteSize (by have ht := hl.tiles; simp [Tiles] at ht; omega)
      rfl
    | cons x rest =>
      cases rest with
      | nil =>
        obtain ⟨token, span⟩ := x
        obtain ⟨value, rfl⟩ := keyword_eq_none.1 (htext ⟨token, span⟩ (by simp))
        obtain ⟨hne, hv⟩ := hl.text ⟨.text value, span⟩ (by simp) value rfl
        obtain ⟨h1, -, h2⟩ := hl.tiles
        obtain rfl := hv.eq_of_span h1 h2
        obtain ⟨first, last⟩ := span
        simp only [List.map_nil, Tiles] at h1 h2
        simp [textLexeme, hne, h1, h2]
      | cons y rest =>
        have ha := (List.isChain_cons_cons.1 hl.apart).1
        exact absurd (htext y (by simp)) (ha (htext x (by simp)))
  · rintro rfl
    refine ⟨tiles_textLexeme start s, ?_, ?_, ?_, fun front m back hm hs =>
      absurd hs (hno front m back hm)⟩
    · intro x hx value hv
      obtain ⟨hs, rfl⟩ := mem_textLexeme.1 hx
      cases hv
      exact ⟨hs, [], [], by simp, by simp⟩
    · by_cases hs : s = [] <;> simp [textLexeme, hs]
    · intro x hx name hk
      obtain ⟨-, rfl⟩ := mem_textLexeme.1 hx
      cases hk

theorem byteSize_le_of_firstMarker? {s before rest front back : Text} {m m' : Marker}
    (h : firstMarker? s = some (before, m, rest)) (hm : m'.Complete)
    (hs : s = front ++ (m'.written ++ back)) : Text.byteSize before ≤ Text.byteSize front := by
  by_contra hlt
  have he := hs.symm.trans (firstMarker?_eq_some h).2
  obtain ⟨t, rfl, -⟩ := exists_append_of_byteSize_le he (by omega)
  have hl := firstMarker?_leftmost h hm hs
  rw [List.length_append] at hl
  obtain rfl : t = [] := List.eq_nil_of_length_eq_zero (by omega)
  simp at hlt

theorem occurrence_cases {s before rest front back : Text} {m m' : Marker}
    (h : firstMarker? s = some (before, m, rest)) (hm : m'.Complete)
    (hs : s = front ++ (m'.written ++ back)) :
    (front = before ∧ m' = m) ∨
    (Text.byteSize before < Text.byteSize front ∧
      Text.byteSize front < Text.byteSize before + Text.byteSize m.written) ∨
    ∃ more, front = before ++ (m.written ++ more) ∧ rest = more ++ (m'.written ++ back) := by
  obtain ⟨hm0, hs0⟩ := firstMarker?_eq_some h
  obtain ⟨t, rfl, ht⟩ := exists_append_of_byteSize_le (hs0.symm.trans hs)
    (byteSize_le_of_firstMarker? h hm hs)
  by_cases hle : Text.byteSize m.written ≤ Text.byteSize t
  · obtain ⟨more, rfl, hr⟩ := exists_append_of_byteSize_le ht hle
    exact .inr (.inr ⟨more, rfl, hr⟩)
  · by_cases hn : t = []
    · have hr : Marker.read (m.written ++ rest) = some (m, rest) :=
        Marker.read_eq_some_iff.2 ⟨hm0, rfl⟩
      rw [ht, hn, List.nil_append, Marker.read_eq_some_iff.2 ⟨hm, rfl⟩] at hr
      cases hr
      exact .inl ⟨by simp [hn], rfl⟩
    · have hp := byteSize_pos hn
      rw [Text.byteSize_append]
      exact .inr (.inl (by omega))

def markerLexeme (start : Nat) (before : Text) (m : Marker) : Lexeme where
  token := .ofIdentifier m.name
  span := ⟨start + Text.byteSize before, start + Text.byteSize before + Text.byteSize m.written⟩

namespace LeftmostFrom

variable {start : Nat} {s before rest : Text} {m : Marker} {front back : List Lexeme}

theorem after_marker (h : firstMarker? s = some (before, m, rest))
    (hl : LeftmostFrom (markerLexeme start before m).span.stop rest back) :
    LeftmostFrom start s (textLexeme start before ++ markerLexeme start before m :: back) := by
  obtain ⟨hm, hs⟩ := firstMarker?_eq_some h
  have hw := byteSize_pos hm.written_ne_nil
  have hk := keyword_ofIdentifier_ne_none m.name
  have hlift {span : Span} {piece : Text}
      (hp : Holds (markerLexeme start before m).span.stop rest span piece) :
      Holds start s span piece := by
    rw [hs, ← List.append_assoc]
    apply Holds.append_left
    rw [Text.byteSize_append, ← Nat.add_assoc]
    exact hp
  constructor
  case tiles =>
    rw [List.map_append, List.map_cons]
    refine (tiles_textLexeme start before).append ⟨rfl, by simp [markerLexeme, hw], ?_⟩
    rw [hs, Text.byteSize_append, Text.byteSize_append, ← Nat.add_assoc, ← Nat.add_assoc]
    exact hl.tiles
  case text =>
    intro x hx value hv
    rcases List.mem_append.1 hx with hx | hx
    · obtain ⟨hne, rfl⟩ := mem_textLexeme.1 hx
      cases hv
      exact ⟨hne, [], m.written ++ rest, hs, by simp⟩
    · rcases List.mem_cons.1 hx with rfl | hx
      · exact absurd hv (ofIdentifier_ne_text m.name value)
      · obtain ⟨hne, hp⟩ := hl.text x hx value hv
        exact ⟨hne, hlift hp⟩
  case apart =>
    refine List.isChain_append.2 ⟨?_, List.isChain_cons.2 ⟨?_, hl.apart⟩, ?_⟩
    · by_cases hb : before = [] <;> simp [textLexeme, hb]
    · intro y _ hn
      exact absurd hn hk
    · intro x _ y hy _
      obtain rfl : markerLexeme start before m = y := by simpa using hy
      exact hk
  case marker =>
    intro x hx name hn
    rcases List.mem_append.1 hx with hx | hx
    · obtain ⟨-, rfl⟩ := mem_textLexeme.1 hx
      cases hn
    · rcases List.mem_cons.1 hx with rfl | hx
      · simp only [markerLexeme, Token.keyword_ofIdentifier, Option.some.injEq] at hn
        exact ⟨by rw [← hn]; rfl, m, hm, hn, before, rest, hs, rfl⟩
      · obtain ⟨ht, m', hm', hn, hp⟩ := hl.marker x hx name hn
        exact ⟨ht, m', hm', hn, hlift hp⟩
  case found =>
    intro head m' tail hm' hs' place
    have hmem : markerLexeme start before m ∈
        textLexeme start before ++ markerLexeme start before m :: back := by simp
    rcases occurrence_cases h hm' hs' with ⟨rfl, rfl⟩ | hin | ⟨more, rfl, hr⟩
    · exact .inl ⟨_, hmem, rfl, rfl⟩
    · refine .inr ⟨_, hmem, hk, ?_, ?_⟩
      · simp only [markerLexeme, place]; omega
      · simp only [markerLexeme, place]; omega
    · have hp : (markerLexeme start before m).span.stop + Text.byteSize more = place := by
        simp only [markerLexeme, place, Text.byteSize_append]; omega
      have hf := hl.found more m' tail hm' hr
      simp only [hp] at hf
      rcases hf with ⟨x, hx, hf⟩ | ⟨x, hx, hf⟩
      · exact .inl ⟨x, by simp [hx], hf⟩
      · exact .inr ⟨x, by simp [hx], hf⟩

theorem marker_mem {l : List Lexeme} (h : firstMarker? s = some (before, m, rest))
    (hl : LeftmostFrom start s l) : markerLexeme start before m ∈ l := by
  obtain ⟨hm, hs⟩ := firstMarker?_eq_some h
  rcases hl.found before m rest hm hs with ⟨⟨token, span⟩, hx, rfl, rfl⟩ | ⟨x, hx, hk, h1, -⟩
  · exact hx
  · obtain ⟨name, hk⟩ := Option.ne_none_iff_exists'.1 hk
    obtain ⟨-, m', hm', -, head, tail, hs', hspan⟩ := hl.marker x hx name hk
    have hle := byteSize_le_of_firstMarker? h hm' hs'
    rw [hspan] at h1
    simp only at h1
    omega

theorem before_marker (h : firstMarker? s = some (before, m, rest))
    (hl : LeftmostFrom start s (front ++ markerLexeme start before m :: back)) :
    LeftmostFrom start before front := by
  have ht := hl.tiles
  rw [List.map_append, List.map_cons] at ht
  have htf := ht.split.1
  have hin {x : Lexeme} {piece : Text} (hx : x ∈ front) (hp : Holds start s x.span piece) :
      Holds start before x.span piece := by
    rw [(firstMarker?_eq_some h).2] at hp
    exact hp.of_append_right (htf.bounds (List.mem_map_of_mem hx)).2.2
  have hno := firstMarker?_eq_none_iff.1 (firstMarker?_before h)
  refine ⟨htf, ?_, (List.isChain_append.1 hl.apart).1, ?_, fun head m' tail hm' hb =>
    absurd hb (hno head m' tail hm')⟩
  · intro x hx value hv
    obtain ⟨hne, hp⟩ := hl.text x (by simp [hx]) value hv
    exact ⟨hne, hin hx hp⟩
  · intro x hx name hn
    obtain ⟨ht, m', hm', hn, hp⟩ := hl.marker x (by simp [hx]) name hn
    exact ⟨ht, m', hm', hn, hin hx hp⟩

theorem behind_marker (h : firstMarker? s = some (before, m, rest))
    (hl : LeftmostFrom start s (front ++ markerLexeme start before m :: back)) :
    LeftmostFrom (markerLexeme start before m).span.stop rest back := by
  have hs := (firstMarker?_eq_some h).2
  have ht := hl.tiles
  rw [List.map_append, List.map_cons] at ht
  obtain ⟨htf, htb⟩ := ht.split
  have hsize : start + Text.byteSize (before ++ m.written) =
      (markerLexeme start before m).span.stop := by
    simp only [markerLexeme, Text.byteSize_append]; omega
  have hin {x : Lexeme} {piece : Text} (hx : x ∈ back) (hp : Holds start s x.span piece) :
      Holds (markerLexeme start before m).span.stop rest x.span piece := by
    rw [hs, ← List.append_assoc] at hp
    rw [← hsize]
    exact hp.of_append_left (by rw [hsize]; exact (htb.bounds (List.mem_map_of_mem hx)).1)
  constructor
  case tiles =>
    rw [hs, ← List.append_assoc, Text.byteSize_append, ← Nat.add_assoc, hsize] at htb
    exact htb
  case text =>
    intro x hx value hv
    obtain ⟨hne, hp⟩ := hl.text x (by simp [hx]) value hv
    exact ⟨hne, hin hx hp⟩
  case apart => exact (List.isChain_cons.1 (List.isChain_append.1 hl.apart).2.1).2
  case marker =>
    intro x hx name hn
    obtain ⟨ht, m', hm', hn, hp⟩ := hl.marker x (by simp [hx]) name hn
    exact ⟨ht, m', hm', hn, hin hx hp⟩
  case found =>
    intro more m' tail hm' hr place
    have hp : start + Text.byteSize (before ++ (m.written ++ more)) = place := by
      simp only [place, markerLexeme, Text.byteSize_append]; omega
    have hw := byteSize_pos hm'.written_ne_nil
    -- a token that reaches a place behind the first marker is none of those before it
    have hlast {x : Lexeme} (hx : x ∈ front ++ markerLexeme start before m :: back)
        (hxs : place < x.span.stop) : x ∈ back := by
      have hplace : (markerLexeme start before m).span.stop ≤ place := by simp [place]
      rcases List.mem_append.1 hx with hx | hx
      · have hb := htf.bounds (List.mem_map_of_mem hx)
        have hm := htb.le
        simp only [markerLexeme] at hb hplace
        omega
      · rcases List.mem_cons.1 hx with rfl | hx
        · omega
        · exact hx
    have hf := hl.found (before ++ (m.written ++ more)) m' tail hm' (by rw [hs, hr]; simp)
    simp only [hp] at hf
    rcases hf with ⟨x, hx, ht, hspan⟩ | ⟨x, hx, hk, h1, h2⟩
    · exact .inl ⟨x, hlast hx (by rw [hspan]; simp [hw]), ht, hspan⟩
    · exact .inr ⟨x, hlast hx h2, hk, h1, h2⟩

end LeftmostFrom

theorem leftmostFrom_iff {start : Nat} {s : Text} {l : List Lexeme} :
    LeftmostFrom start s l ↔ l = lexFrom start s := by
  induction s using firstMarker?_induction generalizing start l with
  | last s h => rw [leftmostFrom_of_none h, lexFrom_of_none h]
  | next s before m rest h ih =>
    rw [lexFrom_of_some h]
    constructor
    · intro hl
      obtain ⟨front, back, rfl⟩ := List.append_of_mem (hl.marker_mem h)
      rw [(leftmostFrom_of_none (firstMarker?_before h)).1 (hl.before_marker h),
        ih.1 (hl.behind_marker h)]
      rfl
    · rintro rfl
      exact LeftmostFrom.after_marker h (ih.2 rfl)

theorem leftmostFrom_lex (s : Text) : LeftmostFrom 0 s (lex s) := leftmostFrom_iff.2 rfl

/-- The lexemes of a text are its leftmost tokenization, and there is no other one: they tile the
text, and no complete marker begins inside a piece that is taken for text. -/
theorem lex_leftmost (s : Text) :
    LeftmostFrom 0 s (lex s) ∧ (∀ l, LeftmostFrom 0 s l → l = lex s) ∧
      ∀ x ∈ lex s, ∀ value, x.token = .text value →
        ∀ front m back, Marker.Complete m → s = front ++ (m.written ++ back) →
          ¬ (x.span.start ≤ Text.byteSize front ∧ Text.byteSize front < x.span.stop) := by
  have hl : LeftmostFrom 0 s (lex s) := leftmostFrom_iff.2 rfl
  refine ⟨hl, fun l h => leftmostFrom_iff.1 h, ?_⟩
  rintro x hx value hv front m back hm hs hin
  have hw := byteSize_pos hm.written_ne_nil
  have hfound := hl.found front m back hm hs
  simp only [Nat.zero_add] at hfound
  obtain ⟨y, hy, hk, hys⟩ : ∃ y ∈ lex s, y.token.keyword ≠ none ∧
      y.span.start ≤ Text.byteSize front ∧ Text.byteSize front < y.span.stop := by
    rcases hfound with ⟨y, hy, ht, hspan⟩ | ⟨y, hy, hk, h1, h2⟩
    · refine ⟨y, hy, ?_, ?_, ?_⟩
      · rw [ht]
        exact keyword_ofIdentifier_ne_none m.name
      · rw [hspan]
      · rw [hspan]
        simp only
        omega
    · exact ⟨y, hy, hk, by omega, h2⟩
  obtain rfl := hl.tiles.lexeme_unique hx hy hin hys
  exact hk (keyword_eq_none.2 ⟨value, hv⟩)

/-- A marker that begins inside another one is none, and a stray opener hides none. -/
example : lex "@a@b@$$(x)".toList =
    [⟨.tag ['a'], ⟨0, 3⟩⟩, ⟨.text ['b', '@', '$'], ⟨3, 6⟩⟩, ⟨.tag ['x'], ⟨6, 10⟩⟩] := by cbv

end RasterText
