import Mathlib.Algebra.Group.Nat.Defs
import Mathlib.Data.List.Basic
import RasterText.Grid.Literal
set_option autoImplicit false

namespace RasterText

def isHexDigit (c : Char) : Bool := c.isDigit || ('a' ≤ c && c ≤ 'f')

theorem isHexDigit_hexDigit : ∀ n < 16, isHexDigit (hexDigit n) = true := by decide

theorem isHexDigit_of_mem_hexNumeral {n : Nat} {c : Char} (h : c ∈ hexNumeral n) :
    isHexDigit c = true := by
  induction n using Nat.strongRecOn with
  | ind n ih =>
    unfold hexNumeral at h
    split at h
    · next hn => rw [List.mem_singleton.1 h]; exact isHexDigit_hexDigit n hn
    · next hn =>
      rcases List.mem_append.1 h with h | h
      · exact ih (n / 16) (by omega) h
      · rw [List.mem_singleton.1 h]
        exact isHexDigit_hexDigit _ (Nat.mod_lt n (by decide))

theorem isHexDigit_of_mem_hexPadded {width n : Nat} {c : Char} (h : c ∈ hexPadded width n) :
    isHexDigit c = true := by
  rcases List.mem_append.1 h with h | h
  · rw [List.eq_of_mem_replicate h]
    rfl
  · exact isHexDigit_of_mem_hexNumeral h

theorem length_hexNumeral_le {k n : Nat} (h : n < 16 ^ (k + 1)) :
    (hexNumeral n).length ≤ k + 1 := by
  induction k generalizing n with
  | zero =>
    rw [hexNumeral, if_pos (by omega)]
    exact Nat.le_refl 1
  | succ k ih =>
    unfold hexNumeral
    split
    · simp
    · have hd : n / 16 < 16 ^ (k + 1) := by
        rw [Nat.pow_succ] at h
        exact Nat.div_lt_of_lt_mul (by omega)
      have hl := ih hd
      rw [List.length_append, List.length_singleton]
      omega

theorem length_hexPadded (width n : Nat) :
    (hexPadded width n).length = max width (hexNumeral n).length := by
  rw [hexPadded, List.length_append, List.length_replicate]
  omega

theorem BlockSize.exists_digits (block : BlockSize) :
    ∃ k, block.bits / 4 = k + 1 ∧ 2 ^ block.bits = 16 ^ (k + 1) := by
  cases block
  · exact ⟨1, rfl, rfl⟩
  · exact ⟨3, rfl, rfl⟩
  · exact ⟨5, rfl, rfl⟩
  · exact ⟨7, rfl, rfl⟩

theorem length_digits {block : BlockSize} {w : UInt32} (h : w.toNat < 2 ^ block.bits) :
    (hexPadded (block.bits / 4) w.toNat).length = block.bits / 4 := by
  obtain ⟨k, hk, hp⟩ := block.exists_digits
  rw [hp] at h
  have hl := length_hexNumeral_le h
  rw [length_hexPadded, hk]
  omega

theorem digits_ne_nil (width n : Nat) : hexPadded width n ≠ [] := by
  simp [hexPadded, hexNumeral_ne_nil]

/-- The pieces of a text between the places where `a` and `b` follow one another, from the left. -/
def splitPair (a b : Char) : Text → List Text
  | c :: d :: r =>
    if c = a ∧ d = b then [] :: splitPair a b r
    else (splitPair a b (d :: r)).modifyHead (c :: ·)
  | s => [s]

def rowsOf (s : Text) : List Text := if s = [] then [] else splitPair ',' '\n' s

section splitPair

variable {a b : Char}

theorem splitPair_cons {c d : Char} (h : d ≠ b) (r : Text) :
    splitPair a b (c :: d :: r) = (splitPair a b (d :: r)).modifyHead (c :: ·) := by
  rw [splitPair, if_neg fun hc => h hc.2]

theorem splitPair_of_not_mem {piece : Text} (h : b ∉ piece) : splitPair a b piece = [piece] := by
  induction piece with
  | nil => rfl
  | cons c r ih =>
    cases r with
    | nil => rfl
    | cons d r =>
      simp only [List.mem_cons, not_or] at h
      rw [splitPair_cons (Ne.symm h.2.1), ih (by simpa using h.2)]
      rfl

theorem splitPair_append (hab : a ≠ b) {piece : Text} (h : b ∉ piece) (rest : Text) :
    splitPair a b (piece ++ [a, b] ++ rest) = piece :: splitPair a b rest := by
  induction piece with
  | nil => simp [splitPair]
  | cons c r ih =>
    simp only [List.mem_cons, not_or] at h
    have hi := ih h.2
    cases r with
    | nil =>
      simp only [List.cons_append, List.nil_append] at hi ⊢
      rw [splitPair_cons hab, hi]
      rfl
    | cons d r =>
      simp only [List.mem_cons, not_or] at h
      simp only [List.cons_append] at hi ⊢
      rw [splitPair_cons (Ne.symm h.2.1), hi]
      rfl

theorem splitPair_intercalate (hab : a ≠ b) {pieces : List Text} (hne : pieces ≠ [])
    (h : ∀ piece ∈ pieces, b ∉ piece) :
    splitPair a b ([a, b].intercalate pieces) = pieces := by
  induction pieces with
  | nil => exact absurd rfl hne
  | cons piece rest ih =>
    cases rest with
    | nil => simpa [List.intercalate] using splitPair_of_not_mem (h piece (by simp))
    | cons next rest =>
      have hi := ih (by simp) fun q hq => h q (by simp [hq])
      rw [List.intercalate_cons_cons, splitPair_append hab (h piece (by simp)), hi]

end splitPair

theorem intercalate_ne_nil {sep : Text} {pieces : List Text} (hne : pieces ≠ [])
    (h : ∀ piece ∈ pieces, piece ≠ []) : sep.intercalate pieces ≠ [] := by
  cases pieces with
  | nil => exact absurd rfl hne
  | cons piece rest =>
    have hp := h piece (by simp)
    cases rest with
    | nil => simpa [List.intercalate] using hp
    | cons next rest => simp [List.intercalate_cons_cons, hp]

theorem mem_intercalate {sep : Text} {pieces : List Text} {c : Char}
    (h : c ∈ sep.intercalate pieces) : c ∈ sep ∨ ∃ piece ∈ pieces, c ∈ piece := by
  induction pieces with
  | nil => simp [List.intercalate] at h
  | cons piece rest ih =>
    cases rest with
    | nil => exact .inr ⟨piece, by simp, by simpa [List.intercalate] using h⟩
    | cons next rest =>
      rw [List.intercalate_cons_cons, List.mem_append, List.mem_append] at h
      rcases h with (h | h) | h
      · exact .inr ⟨piece, by simp, h⟩
      · exact .inl h
      · rcases ih h with h | ⟨q, hq, h⟩
        · exact .inl h
        · exact .inr ⟨q, by simp [hq], h⟩

theorem rowsOf_intercalate {rows : List Text} (h : ∀ row ∈ rows, row ≠ [] ∧ '\n' ∉ row) :
    rowsOf (rowSeparator.intercalate rows) = rows := by
  by_cases hn : rows = []
  · simp [hn, rowsOf, List.intercalate]
  · rw [rowsOf, if_neg (intercalate_ne_nil hn fun row hr => (h row hr).1)]
    exact splitPair_intercalate (by decide) hn fun row hr => (h row hr).2

theorem literalSeparator_eq : literalSeparator = [',', ' '] := rfl

theorem rowSeparator_eq : rowSeparator = [',', '\n'] := rfl

theorem mem_wordLiteral {block : BlockSize} {lead : Text} {w : UInt32} {c : Char}
    (h : c ∈ wordLiteral block lead w) : c ∈ lead ∨ isHexDigit c = true := by
  rcases List.mem_append.1 h with h | h
  · exact .inl h
  · exact .inr (isHexDigit_of_mem_hexPadded h)

theorem mem_rowLiteral {block : BlockSize} {lead : Text} {row : List UInt32} {c : Char}
    (h : c ∈ rowLiteral block lead row) : c = ',' ∨ c = ' ' ∨ c ∈ lead ∨ isHexDigit c = true := by
  rcases mem_intercalate h with h | ⟨piece, hp, h⟩
  · rw [literalSeparator_eq] at h
    rcases List.mem_cons.1 h with h | h
    · exact .inl h
    · exact .inr (.inl (List.mem_singleton.1 h))
  · obtain ⟨w, -, rfl⟩ := List.mem_map.1 hp
    exact .inr (.inr (mem_wordLiteral h))

theorem lineFeed_not_mem_rowLiteral {lead : Text} (hl : '\n' ∉ lead) (block : BlockSize)
    (row : List UInt32) : '\n' ∉ rowLiteral block lead row := by
  intro h
  rcases mem_rowLiteral h with h | h | h | h
  · exact absurd h (by decide)
  · exact absurd h (by decide)
  · exact hl h
  · exact absurd h (by decide)

theorem rowLiteral_ne_nil (block : BlockSize) (lead : Text) {row : List UInt32} (h : row ≠ []) :
    rowLiteral block lead row ≠ [] := by
  refine intercalate_ne_nil (by simpa using h) fun piece hp => ?_
  obtain ⟨w, -, rfl⟩ := List.mem_map.1 hp
  simp [wordLiteral, digits_ne_nil]

/-- The numbers that are written in a text with the prefix `0x`, in order. Whatever stands between
them is passed over. -/
def literalValues (s : Text) : List Nat :=
  match s with
  | '0' :: 'x' :: r =>
    match readHex (r.takeWhile isHexDigit) with
    | some n => n :: literalValues (r.dropWhile isHexDigit)
    | none => literalValues r
  | _ :: r => literalValues r
  | [] => []
termination_by s.length
decreasing_by
  · have hl := (r.dropWhile_sublist isHexDigit).length_le
    simp only [List.length_cons]
    omega
  · simp only [List.length_cons]; omega
  · simp

theorem literalValues_cons {c : Char} (h : c ≠ '0') (r : Text) :
    literalValues (c :: r) = literalValues r := by
  rw [literalValues]
  intro t hc
  simp [h] at hc

theorem literalValues_append {gap : Text} (h : '0' ∉ gap) (r : Text) :
    literalValues (gap ++ r) = literalValues r := by
  induction gap with
  | nil => rfl
  | cons c gap ih =>
    simp only [List.mem_cons, not_or] at h
    rw [List.cons_append, literalValues_cons (Ne.symm h.1), ih h.2]

/-- The numbers of a piece of text, whatever follows it, unless a digit does. -/
def Yields (piece : Text) (values : List Nat) : Prop :=
  ∀ rest : Text, (∀ c ∈ rest.head?, isHexDigit c = false) →
    literalValues (piece ++ rest) = values ++ literalValues rest

theorem yields_wordLiteral (block : BlockSize) (w : UInt32) :
    Yields (wordLiteral block "0x".toList w) [w.toNat] := by
  intro rest hrest
  have hd : ∀ c ∈ hexPadded (block.bits / 4) w.toNat, isHexDigit c = true :=
    fun c hc => isHexDigit_of_mem_hexPadded hc
  have htake : (hexPadded (block.bits / 4) w.toNat ++ rest).takeWhile isHexDigit =
      hexPadded (block.bits / 4) w.toNat := by
    rw [List.takeWhile_append_of_pos hd]
    cases rest with
    | nil => simp
    | cons c rest => simp [hrest c (by simp)]
  have hdrop : (hexPadded (block.bits / 4) w.toNat ++ rest).dropWhile isHexDigit = rest := by
    rw [List.dropWhile_append_of_pos hd]
    cases rest with
    | nil => rfl
    | cons c rest => exact List.dropWhile_cons_of_neg (by simp [hrest c (by simp)])
  have hs : wordLiteral block "0x".toList w ++ rest =
      '0' :: 'x' :: (hexPadded (block.bits / 4) w.toNat ++ rest) := rfl
  rw [hs, literalValues, htake, hdrop, readHex_hexPadded]
  rfl

theorem yields_intercalate {ι : Type} {sep : Text} {c : Char} (hsep : sep.head? = some c)
    (hc : isHexDigit c = false) (hzero : '0' ∉ sep) {piece : ι → Text} {values : ι → List Nat}
    {l : List ι} (h : ∀ i ∈ l, Yields (piece i) (values i)) :
    Yields (sep.intercalate (l.map piece)) (l.flatMap values) := by
  induction l with
  | nil => intro rest _; rfl
  | cons i l ih =>
    intro rest hrest
    have hi := h i (by simp)
    cases l with
    | nil => simpa [List.intercalate] using hi rest hrest
    | cons j l =>
      have hl := ih (fun k hk => h k (by simp [hk])) rest hrest
      simp only [List.map_cons] at hl
      have hhead : ∀ d ∈ (sep ++ (sep.intercalate (piece j :: l.map piece) ++ rest)).head?,
          isHexDigit d = false := by
        intro d hd
        rw [List.head?_append, hsep] at hd
        simp at hd
        rw [← hd, hc]
      rw [List.map_cons, List.map_cons, List.intercalate_cons_cons, List.append_assoc,
        List.append_assoc, hi _ hhead, literalValues_append hzero, hl, ← List.append_assoc]
      rfl

theorem yields_rowLiteral (block : BlockSize) (row : List UInt32) :
    Yields (rowLiteral block "0x".toList row) (row.map UInt32.toNat) := by
  rw [List.map_eq_flatMap]
  exact yields_intercalate (c := ',') rfl (by decide) (by decide)
    fun w _ => yields_wordLiteral block w

theorem flatten_textRows (split : Bool) (g : Grid) : (g.textRows split).flatten = g.words := by
  unfold Grid.textRows
  split
  · next h => exact flatten_cut h.2 g.words
  · simp

theorem replaceChar_of_not_mem {c : Char} {t : Text} (h : c ∉ t) (s : Text) :
    Text.replaceChar c s t = t := by
  induction t with
  | nil => rfl
  | cons d r ih =>
    simp only [List.mem_cons, not_or] at h
    simp only [Text.replaceChar, List.flatMap_cons, if_neg (Ne.symm h.1)]
    exact congrArg (d :: ·) (ih h.2)

theorem replaceChar_intercalate (c : Char) (s sep : Text) (pieces : List Text) :
    Text.replaceChar c s (sep.intercalate pieces) =
      (Text.replaceChar c s sep).intercalate (pieces.map (Text.replaceChar c s)) := by
  induction pieces with
  | nil => rfl
  | cons piece rest ih =>
    cases rest with
    | nil => simp [List.intercalate]
    | cons next rest =>
      rw [List.intercalate_cons_cons, Text.replaceChar_append, Text.replaceChar_append, ih,
        List.map_cons (l := next :: rest), List.map_cons, List.intercalate_cons_cons]

theorem literalValues_format (block : BlockSize) (split : Bool) (g : Grid) {indent : Text}
    (h : ∀ c ∈ indent, c = ' ' ∨ c = '\t') :
    literalValues (Text.replaceChar '\n' ('\n' :: indent) (g.format block split "0x".toList)) =
      g.words.map UInt32.toNat := by
  have hsep : Text.replaceChar '\n' ('\n' :: indent) rowSeparator = ',' :: '\n' :: indent := by
    simp [rowSeparator_eq, Text.replaceChar]
  have hzero : '0' ∉ ',' :: '\n' :: indent := by
    simp only [List.mem_cons, not_or]
    refine ⟨by decide, by decide, fun hm => ?_⟩
    rcases h '0' hm with hc | hc <;> exact absurd hc (by decide)
  have hrows : ((g.textRows split).map (rowLiteral block "0x".toList)).map
      (Text.replaceChar '\n' ('\n' :: indent)) =
        (g.textRows split).map (rowLiteral block "0x".toList) := by
    rw [List.map_map]
    exact List.map_congr_left fun row _ =>
      replaceChar_of_not_mem (lineFeed_not_mem_rowLiteral (by decide) block row) _
  have hhead : (',' :: '\n' :: indent).head? = some ',' := rfl
  have hy := yields_intercalate hhead (by decide) hzero
    (fun row (_ : row ∈ g.textRows split) => yields_rowLiteral block row) [] (by simp)
  rw [Grid.format, replaceChar_intercalate, hsep, hrows]
  rw [List.append_nil, literalValues, List.append_nil] at hy
  rw [hy, List.flatMap_def, ← List.map_flatten, flatten_textRows]

end RasterText
