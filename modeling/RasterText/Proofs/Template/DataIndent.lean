import Mathlib.Data.List.DropRight
import Mathlib.Data.List.Forall2
import RasterText.Proofs.Template.Tokenization
set_option autoImplicit false

/-!
The indentation that a template gives to the data of an image, told by places in the template: the
spaces and tabs in front of the markers for the data. A run of them reaches back to the marker
before at most, so it is the end of the text that was read in front of its own marker.
-/

namespace RasterText

def imageDataTag : Token := .tag "imageData".toList

def imageDataPlaces (s : Text) : List Nat :=
  ((lex s).filter fun x => x.token = imageDataTag).map fun x => x.span.start

/-- Spaces and tabs that end at the byte offset `place`. -/
def IndentAt (s : Text) (place : Nat) (run : Text) : Prop :=
  (∀ c ∈ run, c = ' ' ∨ c = '\t') ∧
    ∃ front back, s = front ++ (run ++ back) ∧ Text.byteSize (front ++ run) = place

def LongestIndentAt (s : Text) (place : Nat) (run : Text) : Prop :=
  IndentAt s place run ∧ ∀ other, IndentAt s place other → other.length ≤ run.length

section Runs

theorem mem_indentEnd {s : Text} {c : Char} (h : c ∈ indentEnd s) : c = ' ' ∨ c = '\t' := by
  simpa using List.mem_takeWhile_imp (List.mem_reverse.1 h)

theorem exists_indentEnd_append (s : Text) : ∃ front, s = front ++ indentEnd s := by
  refine ⟨(s.reverse.dropWhile fun c => c == ' ' || c == '\t').reverse, ?_⟩
  rw [indentEnd, ← List.reverse_append, List.takeWhile_append_dropWhile, List.reverse_reverse]

theorem indentEnd_append_run (front : Text) {run : Text} (h : ∀ c ∈ run, c = ' ' ∨ c = '\t') :
    indentEnd (front ++ run) = indentEnd front ++ run := by
  have hr : ∀ c ∈ run.reverse, (c == ' ' || c == '\t') = true := fun c hc => by
    simpa using h c (List.mem_reverse.1 hc)
  rw [indentEnd, List.reverse_append, List.takeWhile_append_of_pos hr, List.reverse_append,
    List.reverse_reverse, indentEnd]

theorem indentEnd_append_cons (front : Text) {c : Char} (hc : ¬ (c = ' ' ∨ c = '\t'))
    (s : Text) : indentEnd (front ++ c :: s) = indentEnd s := by
  have h : (c == ' ' || c == '\t') = false := by simpa using hc
  rw [indentEnd, List.reverse_append, List.reverse_cons, List.append_assoc, List.takeWhile_append,
    List.singleton_append, List.takeWhile_cons_of_neg (by simp [h]), List.append_nil, indentEnd]
  split
  · next hl => rw [(List.takeWhile_prefix _).eq_of_length hl]
  · rfl

theorem longestIndentAt_iff {front back run : Text} :
    LongestIndentAt (front ++ back) (Text.byteSize front) run ↔ run = indentEnd front := by
  have hcut {other : Text} (h : IndentAt (front ++ back) (Text.byteSize front) other) :
      ∃ more, front = more ++ other := by
    obtain ⟨-, more, rest, hs, hsize⟩ := h
    rw [← List.append_assoc] at hs
    obtain ⟨t, ht, -⟩ := exists_append_of_byteSize_le hs (Nat.le_of_eq hsize.symm)
    rw [ht, Text.byteSize_append] at hsize
    obtain rfl : t = [] := eq_nil_of_byteSize (by omega)
    exact ⟨more, by simpa using ht.symm⟩
  have hend : IndentAt (front ++ back) (Text.byteSize front) (indentEnd front) := by
    obtain ⟨more, hm⟩ := exists_indentEnd_append front
    exact ⟨fun c => mem_indentEnd, more, back, by rw [← List.append_assoc, ← hm], by rw [← hm]⟩
  -- a run that ends there is the end of the longest one
  have hlong {other : Text} (h : IndentAt (front ++ back) (Text.byteSize front) other) :
      ∃ more, indentEnd front = more ++ other := by
    obtain ⟨more, rfl⟩ := hcut h
    exact ⟨indentEnd more, indentEnd_append_run more h.1⟩
  constructor
  · rintro ⟨hrun, hmax⟩
    obtain ⟨more, hm⟩ := hlong hrun
    have hle := hmax _ hend
    rw [hm, List.length_append] at hle
    obtain rfl : more = [] := List.eq_nil_of_length_eq_zero (by omega)
    simpa using hm.symm
  · rintro rfl
    refine ⟨hend, fun other h => ?_⟩
    obtain ⟨more, hm⟩ := hlong h
    rw [hm, List.length_append]
    omega

end Runs

theorem Marker.Complete.indentEnd_append {m : Marker} (hm : m.Complete) (front s : Text) :
    indentEnd (front ++ m.written ++ s) = indentEnd s := by
  obtain ⟨-, opener, closer, -, hc, hw⟩ := hm
  have hn : ¬ (closer = ' ' ∨ closer = '\t') := by rcases hc with rfl | rfl <;> decide
  have hs : front ++ m.written ++ s = (front ++ opener ++ m.name) ++ closer :: s := by
    rw [hw]
    simp
  rw [hs, indentEnd_append_cons _ hn]

theorem text_ne_imageDataTag (value : Text) : Token.text value ≠ imageDataTag := nofun

theorem tag_eq_imageDataTag_iff {name : Text} :
    Token.tag name = imageDataTag ↔ name = "imageData".toList := by
  rw [imageDataTag, Token.tag.injEq]

theorem filter_textLexeme (start : Nat) (s : Text) :
    (textLexeme start s).filter (fun x => x.token = imageDataTag) = [] := by
  by_cases hs : s = [] <;> simp [textLexeme, hs, text_ne_imageDataTag]

theorem indentOf_textLexeme (start : Nat) (s : Text) : indentOf (textLexeme start s) = none := by
  unfold textLexeme
  split <;> rfl

theorem indentOf_marker (start : Nat) (before : Text) {x : Lexeme} (hx : x.token.keyword ≠ none)
    (l : List Lexeme) :
    indentOf (textLexeme start before ++ x :: l) =
      if x.token = imageDataTag ∧ indentEnd before ≠ [] then some (indentEnd before)
      else indentOf l := by
  obtain ⟨token, p⟩ := x
  have hskip : indentOf (⟨token, p⟩ :: l) = indentOf l := by
    cases token with
    | text value => exact absurd rfl hx
    | _ => rfl
  by_cases hb : before = []
  · subst hb
    have he : indentEnd [] = [] := rfl
    simpa [textLexeme, he] using hskip
  · rw [textLexeme, if_neg hb, List.singleton_append]
    cases token with
    | text value => exact absurd rfl hx
    | tag name =>
      rw [indentOf, hskip]
      simp only [tag_eq_imageDataTag_iff]
    | blockStart name =>
      rw [if_neg (by simp [imageDataTag])]
      exact hskip
    | blockEnd name =>
      rw [if_neg (by simp [imageDataTag])]
      exact hskip

/-- The longest runs in front of the tags for the data, of which the search takes the first that is
not empty. What stands in front of the text, `pre`, has no part in them. -/
theorem exists_runs (s pre : Text) (hpre : ∀ t, indentEnd (pre ++ t) = indentEnd t) :
    ∃ runs, List.Forall₂ (LongestIndentAt (pre ++ s))
      (((lexFrom (Text.byteSize pre) s).filter fun x => x.token = imageDataTag).map fun x =>
        x.span.start) runs ∧
      indentOf (lexFrom (Text.byteSize pre) s) = runs.find? (· ≠ []) := by
  induction s using firstMarker?_induction generalizing pre with
  | last s h =>
    refine ⟨[], ?_, ?_⟩
    · rw [lexFrom_of_none h, filter_textLexeme]
      exact .nil
    · rw [lexFrom_of_none h, indentOf_textLexeme]
      rfl
  | next s before m rest h ih =>
    obtain ⟨hm, hs⟩ := firstMarker?_eq_some h
    have hsize : Text.byteSize (pre ++ before ++ m.written) =
        Text.byteSize pre + Text.byteSize before + Text.byteSize m.written := by
      rw [Text.byteSize_append, Text.byteSize_append]
    have hwhole : pre ++ before ++ m.written ++ rest = pre ++ s := by simp [hs]
    obtain ⟨runs, hruns, hfind⟩ := ih (pre ++ before ++ m.written) (hm.indentEnd_append _)
    rw [hwhole, hsize] at hruns
    rw [hsize] at hfind
    rw [lexFrom_of_some h, indentOf_marker _ _ (keyword_ofIdentifier_ne_none m.name), hfind,
      List.filter_append, filter_textLexeme, List.nil_append, List.filter_cons]
    by_cases ht : Token.ofIdentifier m.name = imageDataTag
    · have hrun : LongestIndentAt (pre ++ s) (Text.byteSize pre + Text.byteSize before)
          (indentEnd before) := by
        rw [← hpre before, ← Text.byteSize_append, ← hwhole, List.append_assoc (pre ++ before)]
        exact longestIndentAt_iff.2 rfl
      refine ⟨indentEnd before :: runs, ?_, ?_⟩
      · rw [if_pos (by simp [ht]), List.map_cons]
        exact .cons hrun hruns
      · by_cases he : indentEnd before = [] <;> simp [ht, he]
    · refine ⟨runs, ?_, ?_⟩
      · rw [if_neg (by simp [ht])]
        exact hruns
      · simp [ht]

theorem pairwise_imageDataPlaces (s : Text) : (imageDataPlaces s).Pairwise (· < ·) := by
  have hl := (leftmostFrom_lex s).tiles.pairwise_lexemes
  rw [imageDataPlaces, List.pairwise_map]
  exact (hl.sublist List.filter_sublist).imp fun h => h.1

theorem mem_imageDataPlaces_iff {s : Text} {place : Nat} :
    place ∈ imageDataPlaces s ↔
      (∃ front m back, Marker.Complete m ∧ m.name = "imageData".toList ∧
        s = front ++ (m.written ++ back) ∧ Text.byteSize front = place) ∧
      ∀ x ∈ lex s, x.token.keyword ≠ none → ¬ (x.span.start < place ∧ place < x.span.stop) := by
  have hl := leftmostFrom_lex s
  have hplace : place ∈ imageDataPlaces s ↔
      ∃ x ∈ lex s, x.token = imageDataTag ∧ x.span.start = place := by
    simp [imageDataPlaces, and_assoc]
  rw [hplace]
  constructor
  · rintro ⟨x, hx, ht, rfl⟩
    obtain ⟨-, m, hm, hn, front, back, hs, hspan⟩ :=
      hl.marker x hx "imageData".toList (by rw [ht]; rfl)
    refine ⟨⟨front, m, back, hm, hn, hs, by rw [hspan]; simp⟩, fun y hy _ hin => ?_⟩
    have hpos := hl.tiles.bounds (List.mem_map_of_mem hx)
    obtain rfl := hl.tiles.lexeme_unique hy hx ⟨Nat.le_of_lt hin.1, hin.2⟩ ⟨Nat.le_refl _, hpos.2.1⟩
    exact Nat.lt_irrefl _ hin.1
  · rintro ⟨⟨front, m, back, hm, hn, hs, rfl⟩, hout⟩
    have hfound := hl.found front m back hm hs
    simp only [Nat.zero_add] at hfound
    rcases hfound with ⟨x, hx, ht, hspan⟩ | ⟨x, hx, hk, hin⟩
    · have hdata : Token.ofIdentifier "imageData".toList = imageDataTag := by decide
      exact ⟨x, hx, by rw [ht, hn, hdata], by rw [hspan]⟩
    · exact absurd hin (hout x hx hk)

/-- The indentation for the data of an image is the first run of spaces and tabs in front of a tag
for the data that is not empty, as long as it stands in the template. -/
theorem imageDataIndent_first (s : Text) :
    ((imageDataPlaces s).Pairwise (· < ·) ∧ ∀ place, place ∈ imageDataPlaces s ↔
      (∃ front m back, Marker.Complete m ∧ m.name = "imageData".toList ∧
        s = front ++ (m.written ++ back) ∧ Text.byteSize front = place) ∧
      ∀ x ∈ lex s, x.token.keyword ≠ none → ¬ (x.span.start < place ∧ place < x.span.stop)) ∧
    ∃ runs, List.Forall₂ (LongestIndentAt s) (imageDataPlaces s) runs ∧
      imageDataIndent s = runs.find? (· ≠ []) := by
  refine ⟨⟨pairwise_imageDataPlaces s, fun place => mem_imageDataPlaces_iff⟩, ?_⟩
  exact exists_runs s [] fun t => rfl

end RasterText
