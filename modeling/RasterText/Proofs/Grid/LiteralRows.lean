import Mathlib.Data.Nat.Log
import RasterText.Proofs.Grid.BitWriter
set_option autoImplicit false

namespace RasterText

def literalRows (s : Text) : List (List Text) := (rowsOf s).map (splitPair ',' ' ')

/-- Reads a literal with the prefix `0x` and digits of lower case. -/
def readWord? : Text → Option UInt32
  | '0' :: 'x' :: digits =>
    if digits.all isHexDigit then
      (readHex digits).bind fun n => if n < 2 ^ 32 then some (UInt32.ofNat n) else none
    else none
  | _ => none

theorem readWord?_wordLiteral (block : BlockSize) (w : UInt32) :
    readWord? (wordLiteral block "0x".toList w) = some w := by
  have hd : (hexPadded (block.bits / 4) w.toNat).all isHexDigit :=
    List.all_eq_true.2 fun c hc => isHexDigit_of_mem_hexPadded hc
  have hl : wordLiteral block "0x".toList w = '0' :: 'x' :: hexPadded (block.bits / 4) w.toNat :=
    rfl
  rw [hl, readWord?, if_pos hd, readHex_hexPadded, Option.bind_some, if_pos w.toNat_lt,
    UInt32.ofNat_toNat]

theorem length_hexNumeral (n : Nat) : (hexNumeral n).length = Nat.log 16 n + 1 := by
  induction n using Nat.strongRecOn with
  | ind n ih =>
    unfold hexNumeral
    split
    · next h => rw [Nat.log_of_lt h, List.length_singleton]
    · next h =>
      rw [List.length_append, ih (n / 16) (by omega), List.length_singleton,
        Nat.log_of_one_lt_of_le (by decide) (Nat.le_of_not_lt h)]

theorem length_wordLiteral (block : BlockSize) (lead : Text) (w : UInt32) :
    (wordLiteral block lead w).length =
      lead.length + max (block.bits / 4) (Nat.log 16 w.toNat + 1) := by
  rw [wordLiteral, List.length_append, length_hexPadded, length_hexNumeral]

theorem splitPair_rowLiteral {lead : Text} (hl : ' ' ∉ lead) (block : BlockSize)
    {row : List UInt32} (h : row ≠ []) :
    splitPair ',' ' ' (rowLiteral block lead row) = row.map (wordLiteral block lead) := by
  refine splitPair_intercalate (by decide) (by simpa using h) fun literal hm hc => ?_
  obtain ⟨w, -, rfl⟩ := List.mem_map.1 hm
  rcases mem_wordLiteral hc with hc | hc
  · exact hl hc
  · exact absurd hc (by decide)

namespace Grid

variable {g : Grid} {block : BlockSize} {split : Bool} {lead : Text}

/-- The rows that can be told from the text. No words leave nothing of a row. -/
def shownRows (split : Bool) (g : Grid) : List (List UInt32) :=
  if g.words = [] then [] else g.textRows split

theorem shownRows_of_split (h : split ∧ 0 < g.width.toNat) :
    CutInto g.width.toNat g.words (g.shownRows split) := by
  by_cases hn : g.words = []
  · constructor <;> simp [shownRows, hn]
  · rw [shownRows, if_neg hn, textRows, if_pos h]
    exact cutInto_cut h.2 g.words

theorem shownRows_of_not_split (h : ¬(split ∧ 0 < g.width.toNat)) :
    g.shownRows split = if g.words = [] then [] else [g.words] := by
  rw [shownRows, textRows, if_neg h]

theorem flatten_shownRows (split : Bool) (g : Grid) : (g.shownRows split).flatten = g.words := by
  by_cases h : split ∧ 0 < g.width.toNat
  · exact (shownRows_of_split h).flatten
  · by_cases hn : g.words = [] <;> simp [shownRows_of_not_split h, hn]

theorem row_ne_nil {row : List UInt32} (h : row ∈ g.shownRows split) : row ≠ [] := by
  by_cases hs : split ∧ 0 < g.width.toNat
  · exact List.length_pos_iff.1 ((shownRows_of_split hs).bounds row h).1
  · rw [shownRows_of_not_split hs] at h
    split at h
    · cases h
    · next hn =>
      rw [List.mem_singleton.1 h]
      exact hn

theorem format_eq_intercalate (block : BlockSize) (split : Bool) (lead : Text) (g : Grid) :
    g.format block split lead =
      rowSeparator.intercalate ((g.shownRows split).map (rowLiteral block lead)) := by
  by_cases hn : g.words = []
  · by_cases h : split ∧ 0 < g.width.toNat <;>
      simp [format, textRows, shownRows, hn, h, rowLiteral, List.intercalate]
  · rw [format, shownRows, if_neg hn]

/-- Neither separator is found within a literal, and the one between literals is not found between
rows. -/
theorem literalRows_format (h1 : '\n' ∉ lead) (h2 : ' ' ∉ lead) :
    literalRows (g.format block split lead) =
      (g.shownRows split).map (List.map (wordLiteral block lead)) := by
  have hrows : ∀ text ∈ (g.shownRows split).map (rowLiteral block lead),
      text ≠ [] ∧ '\n' ∉ text := by
    intro text hm
    obtain ⟨row, hr, rfl⟩ := List.mem_map.1 hm
    exact ⟨rowLiteral_ne_nil block lead (row_ne_nil hr), lineFeed_not_mem_rowLiteral h1 block row⟩
  rw [literalRows, format_eq_intercalate, rowsOf_intercalate hrows, List.map_map]
  exact List.map_congr_left fun row hr => splitPair_rowLiteral h2 block (row_ne_nil hr)

/-- The words of a grid are read back row by row, each from a literal with as many digits as the
block size asks for, or more if the word needs them. Only an empty text has no rows. -/
theorem words_of_format (block : BlockSize) (split : Bool) (g : Grid) :
    let text := g.format block split "0x".toList
    (text = [] ↔ g.words = []) ∧
      (∃ rows, (literalRows text).mapM (List.mapM readWord?) = some rows ∧
        rows.flatten = g.words ∧
        if split ∧ 0 < g.width.toNat then CutInto g.width.toNat g.words rows
        else rows = if g.words = [] then [] else [g.words]) ∧
      (literalRows text).flatten.map List.length =
        g.words.map fun w => 2 + max (block.bits / 4) (Nat.log 16 w.toNat + 1) := by
  intro text
  have hliterals : literalRows text =
      (g.shownRows split).map (List.map (wordLiteral block "0x".toList)) :=
    literalRows_format (by decide) (by decide)
  refine ⟨⟨fun ht => ?_, fun hn => ?_⟩,
    ⟨g.shownRows split, ?_, flatten_shownRows split g, ?_⟩, ?_⟩
  · have hnil : g.shownRows split = [] := by simpa [ht, literalRows, rowsOf] using hliterals
    rw [← flatten_shownRows split g, hnil, List.flatten_nil]
  · have ht := format_eq_intercalate block split "0x".toList g
    rwa [shownRows, if_pos hn] at ht
  · rw [hliterals, mapM_map_eq_some fun row _ => mapM_map_eq_some (h := id) fun w _ =>
      readWord?_wordLiteral block w]
    simp
  · by_cases h : split ∧ 0 < g.width.toNat
    · rw [if_pos h]
      exact shownRows_of_split h
    · rw [if_neg h]
      exact shownRows_of_not_split h
  · rw [hliterals, ← List.map_flatten, flatten_shownRows, List.map_map]
    exact List.map_congr_left fun w _ => length_wordLiteral block _ w

example : (literalRows ((⟨[10, 255, 4096], 2, 2⟩ : Grid).format .bits8 true "0x".toList)).mapM
    (List.mapM readWord?) = some [[10, 255], [4096]] := by cbv

end Grid

end RasterText
