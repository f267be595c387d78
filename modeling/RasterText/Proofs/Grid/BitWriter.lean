import Mathlib.Data.List.Forall2
import RasterText.Grid.Pipeline
import RasterText.Proofs.Grid.PackedBits
import RasterText.Proofs.Grid.Shape
set_option autoImplicit false

/-!
Lines packed bit by bit. A writer shifts every bit into an accumulator and lets a word go as soon as
it is full; at the end of a line the last word is filled up with zeros. This gives the words of a
line, and with them every selected bit of it in its place, whether the line is complete or not.
-/

namespace RasterText

/-- The words that are full, and the bits that wait for the next one. -/
structure BitWriter where
  words : List UInt32 := []
  acc : Nat := 0
  filled : Nat := 0
  deriving DecidableEq, Repr

namespace BitWriter

def push (size : Nat) (w : BitWriter) (bit : Bool) : BitWriter :=
  if w.filled + 1 = size then { words := w.words ++ [UInt32.ofNat (2 * w.acc + bit.toNat)] }
  else { w with acc := 2 * w.acc + bit.toNat, filled := w.filled + 1 }

def close (size : Nat) (w : BitWriter) : List UInt32 :=
  if w.filled = 0 then w.words
  else w.words ++ [UInt32.ofNat (w.acc <<< (size - w.filled))]

def write (size : Nat) (bits : List Bool) : List UInt32 := (bits.foldl (push size) {}).close size

/-- The writer has taken in `bits`: the whole words of them are out, the rest is waiting. -/
def Holds (size : Nat) (w : BitWriter) (bits : List Bool) : Prop :=
  ∃ (k : Nat) (done pending : List Bool), bits = done ++ pending ∧ done.length = size * k ∧
    pending.length < size ∧ w.words = (cut size done).map (wordOfBits size) ∧
    w.acc = ofBits pending ∧ w.filled = pending.length

end BitWriter

theorem cut_append_of_length {α : Type} {n k : Nat} (hn : 0 < n) {front : List α}
    (h : front.length = n * k) (rest : List α) :
    cut n (front ++ rest) = cut n front ++ cut n rest := by
  induction k generalizing front with
  | zero =>
    obtain rfl := List.eq_nil_of_length_eq_zero (by simpa using h)
    simp
  | succ k ih =>
    have ht : (front.take n).length = n := by
      rw [List.length_take, h, Nat.mul_succ]
      omega
    have hd : (front.drop n).length = n * k := by
      rw [List.length_drop, h, Nat.mul_succ]
      omega
    rw [← List.take_append_drop n front, List.append_assoc, cut_append hn _ ht,
      cut_append hn _ ht, ih hd, List.cons_append]

theorem cut_of_length_le {α : Type} {n : Nat} {l : List α} (hl : l ≠ []) (h : l.length ≤ n) :
    cut n l = [l] := by
  cases l with
  | nil => exact absurd rfl hl
  | cons a l =>
    cases n with
    | zero => simp at h
    | succ n =>
      have hn : l.length ≤ n := by simpa using h
      simp [cut, cutSucc, List.take_of_length_le hn, List.drop_eq_nil_of_le hn]

namespace BitWriter

variable {size : Nat} {w : BitWriter} {bits : List Bool}

theorem holds_empty (hs : 0 < size) : Holds size {} [] :=
  ⟨0, [], [], by simp [hs, ofBits]⟩

theorem Holds.push (h : Holds size w bits) (bit : Bool) :
    Holds size (w.push size bit) (bits ++ [bit]) := by
  obtain ⟨k, done, pending, rfl, hd, hp, hw, ha, hf⟩ := h
  have hacc : 2 * w.acc + bit.toNat = ofBits (pending ++ [bit]) := by
    rw [ofBits_append_singleton, ha]
  by_cases hfull : w.filled + 1 = size
  · have hl : (pending ++ [bit]).length = size := by simp [← hf, hfull]
    have hword : UInt32.ofNat (2 * w.acc + bit.toNat) = wordOfBits size (pending ++ [bit]) := by
      rw [wordOfBits, hl, Nat.sub_self, Nat.shiftLeft_zero, hacc]
    refine ⟨k + 1, done ++ (pending ++ [bit]), [], by simp, ?_, by simp; omega, ?_, ?_, ?_⟩
    · rw [List.length_append, hl, hd, Nat.mul_succ]
    · rw [cut_append_of_length (by omega) hd, cut_of_length_le (by simp) (Nat.le_of_eq hl)]
      simp [BitWriter.push, hfull, hw, hword]
    · simp [BitWriter.push, hfull, ofBits]
    · simp [BitWriter.push, hfull]
  · refine ⟨k, done, pending ++ [bit], by simp, hd, by simp; omega, ?_, ?_, ?_⟩
    · simp [BitWriter.push, hfull, hw]
    · simp [BitWriter.push, hfull, hacc]
    · simp [BitWriter.push, hfull, ← hf]

theorem Holds.foldl (h : Holds size w bits) (more : List Bool) :
    Holds size (more.foldl (BitWriter.push size) w) (bits ++ more) := by
  induction more generalizing w bits with
  | nil => simpa using h
  | cons bit more ih => simpa using ih (h.push bit)

theorem Holds.close (h : Holds size w bits) :
    w.close size = (cut size bits).map (wordOfBits size) := by
  obtain ⟨k, done, pending, rfl, hd, hp, hw, ha, hf⟩ := h
  rw [cut_append_of_length (by omega) hd, List.map_append, ← hw, BitWriter.close, hf]
  by_cases hn : pending = []
  · simp [hn]
  · rw [if_neg (by simpa using hn), cut_of_length_le hn (by omega), ha]
    rfl

theorem write_eq (hs : 0 < size) (bits : List Bool) :
    write size bits = (cut size bits).map (wordOfBits size) := by
  have h := (holds_empty hs).foldl bits
  rw [List.nil_append] at h
  exact h.close

end BitWriter

/-- The bits of a word at the ones of a mask, from the highest one down. -/
def maskedBits (mask w : UInt32) : List Bool :=
  ((wordBits 32 mask).zip (wordBits 32 w)).filterMap fun p => if p.1 then some p.2 else none

theorem bitsAt_selectedBits (mask w : UInt32) :
    bitsAt (selectedBits mask) w = maskedBits mask w := by
  have h (one bit : Nat → Bool) (places : List Nat) : (places.filter one).map bit =
      ((places.map one).zip (places.map bit)).filterMap
        fun p => if p.1 then some p.2 else none := by
    induction places with
    | nil => rfl
    | cons k places ih => by_cases hk : one k <;> simp [hk, ih]
  exact h _ _ _

theorem count_wordBits (mask : UInt32) : (wordBits 32 mask).count true = maskBits mask := by
  simp [wordBits, maskBits, List.count_eq_countP, List.countP_map, Function.comp_def]

structure CutInto {α : Type} (n : Nat) (l : List α) (pieces : List (List α)) : Prop where
  flatten : pieces.flatten = l
  full : ∀ piece ∈ pieces.dropLast, piece.length = n
  bounds : ∀ piece ∈ pieces, 0 < piece.length ∧ piece.length ≤ n

/-- The words of one line. -/
structure PackedInto (mask : UInt32) (block : BlockSize) (line words : List UInt32) : Prop where
  length_eq : words.length =
    (line.length * (wordBits 32 mask).count true + block.bits - 1) / block.bits
  fits : ∀ w ∈ words, w.toNat < 2 ^ block.bits
  bits : ∃ zeros, words.flatMap (wordBits block.bits) =
    line.flatMap (maskedBits mask) ++ List.replicate zeros false
  written : words = BitWriter.write block.bits (line.flatMap (maskedBits mask))

section Pieces

variable {α : Type} {n : Nat} {l piece : List α}

theorem length_pos_of_mem_cut (h : piece ∈ cut n l) : 0 < piece.length := by
  cases n with
  | zero => simp [cut] at h
  | succ n =>
    rw [cut] at h
    fun_induction cutSucc n l with
    | case1 => simp at h
    | case2 a rest ih =>
      rcases List.mem_cons.1 h with rfl | h
      · simp
      · exact ih h

theorem length_of_mem_dropLast_cut (h : piece ∈ (cut n l).dropLast) : piece.length = n := by
  cases n with
  | zero => simp [cut] at h
  | succ n =>
    rw [cut] at h
    fun_induction cutSucc n l with
    | case1 => simp at h
    | case2 a rest ih =>
      cases hr : cutSucc n (rest.drop n) with
      | nil => simp [hr] at h
      | cons next pieces =>
        have hl : n < rest.length := by
          by_contra hl
          simp [List.drop_eq_nil_of_le (Nat.le_of_not_lt hl), cutSucc] at hr
        rw [hr, List.dropLast_cons_cons, List.mem_cons] at h
        rcases h with rfl | h
        · simp
          omega
        · exact ih (by rwa [hr])

theorem cutInto_cut (hn : 0 < n) (l : List α) : CutInto n l (cut n l) where
  flatten := flatten_cut hn l
  full _ h := length_of_mem_dropLast_cut h
  bounds _ h := ⟨length_pos_of_mem_cut h, length_le_of_mem_cut h⟩

end Pieces

theorem lineBits_eq (mask : UInt32) (line : List UInt32) :
    lineBits mask line = line.flatMap (maskedBits mask) :=
  List.flatMap_congr fun w _ => bitsAt_selectedBits mask w

theorem packedInto_packLine (mask : UInt32) (block : BlockSize) (line : List UInt32) :
    PackedInto mask block line (packLine mask block line) where
  length_eq := by rw [count_wordBits, length_packLine]
  fits _ h := lt_of_mem_packLine h
  bits := by
    rw [bits_packLine, lineBits_eq]
    exact ⟨_, rfl⟩
  written := by
    rw [BitWriter.write_eq block.bits_pos, ← lineBits_eq]
    rfl

def quadGrid : Grid where
  words := [0xffffffff, 0x00200081, 0x00e00000, 0x00000102, 0, 0x1ff, 0x00c00001, 0x00a00180]
  width := 4
  height := 2

example : Grid.pack 0x1 .bits8 ⟨[1, 1, 1, 0, 0, 1, 1], 3, 3⟩ = ⟨[0xe0, 0x20, 0x80], 1, 3⟩ := by cbv

end RasterText
