import Mathlib.Algebra.Group.Nat.Defs
import RasterText.Grid.Packing
set_option autoImplicit false

namespace RasterText

theorem testBit_eq_false_of_lt {w : UInt32} {n i : Nat} (h : w.toNat < 2 ^ n) (hi : n ≤ i) :
    w.toNat.testBit i = false :=
  Nat.testBit_lt_two_pow (Nat.lt_of_lt_of_le h (Nat.pow_le_pow_right (by omega) hi))

theorem testBit_eq_false_of_le (w : UInt32) {i : Nat} (h : 32 ≤ i) :
    w.toNat.testBit i = false :=
  testBit_eq_false_of_lt w.toNat_lt h

theorem word_ext {v w : UInt32} (h : ∀ i < 32, v.toNat.testBit i = w.toNat.testBit i) : v = w := by
  apply UInt32.toNat_inj.1
  apply Nat.eq_of_testBit_eq
  intro i
  by_cases hi : i < 32
  · exact h i hi
  · rw [testBit_eq_false_of_le v (by omega), testBit_eq_false_of_le w (by omega)]

theorem toNat_ofNat_mod {k : Nat} (hk : k < 32) : (UInt32.ofNat k).toNat % 32 = k := by
  rw [UInt32.toNat_ofNat_of_lt' (by simp only [UInt32.size]; omega), Nat.mod_eq_of_lt hk]

def lowMask (n : Nat) : UInt32 := UInt32.ofNat (2 ^ n - 1)

theorem testBit_lowMask {n : Nat} (hn : n ≤ 32) (i : Nat) :
    (lowMask n).toNat.testBit i = decide (i < n) := by
  have hp : 2 ^ n ≤ 2 ^ 32 := Nat.pow_le_pow_right (by omega) hn
  have hpos := Nat.two_pow_pos n
  rw [lowMask, UInt32.toNat_ofNat_of_lt' (by simp only [UInt32.size]; omega),
    Nat.testBit_two_pow_sub_one]

theorem testBit_shiftLeft {k : Nat} (hk : k < 32) (w : UInt32) (i : Nat) :
    (w <<< UInt32.ofNat k).toNat.testBit i =
      (decide (i < 32) && decide (k ≤ i) && w.toNat.testBit (i - k)) := by
  rw [UInt32.toNat_shiftLeft, toNat_ofNat_mod hk, Nat.testBit_mod_two_pow,
    Nat.testBit_shiftLeft, Bool.and_assoc]

theorem testBit_shiftRight {k : Nat} (hk : k < 32) (w : UInt32) (i : Nat) :
    (w >>> UInt32.ofNat k).toNat.testBit i = w.toNat.testBit (k + i) := by
  rw [UInt32.toNat_shiftRight, toNat_ofNat_mod hk, Nat.testBit_shiftRight]

theorem ofBits_append_singleton (bits : List Bool) (b : Bool) :
    ofBits (bits ++ [b]) = 2 * ofBits bits + b.toNat := by
  simp [ofBits]

theorem ofBits_lt (bits : List Bool) : ofBits bits.reverse < 2 ^ bits.length := by
  induction bits with
  | nil => simp [ofBits]
  | cons b bits ih =>
    have hb := b.toNat_le
    rw [List.reverse_cons, ofBits_append_singleton, List.length_cons, Nat.pow_succ]
    omega

theorem testBit_ofBits (bits : List Bool) (i : Nat) :
    (ofBits bits.reverse).testBit i = bits[i]?.getD false := by
  induction bits generalizing i with
  | nil => simp [ofBits]
  | cons b bits ih =>
    have hb := b.toNat_le
    rw [List.reverse_cons, ofBits_append_singleton]
    cases i with
    | zero => cases b <;> simp [Nat.testBit_zero]
    | succ i =>
      have hd : (2 * ofBits bits.reverse + b.toNat) / 2 = ofBits bits.reverse := by omega
      rw [Nat.testBit_succ, hd, ih, List.getElem?_cons_succ]

/-- The low `size` bits of a word, the highest one first. -/
def wordBits (size : Nat) (w : UInt32) : List Bool :=
  (List.range size).reverse.map fun i => w.toNat.testBit i

@[simp] theorem length_wordBits (size : Nat) (w : UInt32) : (wordBits size w).length = size := by
  simp [wordBits]

theorem toNat_wordOfBits {size : Nat} (hs : size ≤ 32) {bits : List Bool}
    (h : bits.length ≤ size) :
    (wordOfBits size bits).toNat = ofBits bits <<< (size - bits.length) := by
  have hb := ofBits_lt bits.reverse
  rw [List.reverse_reverse, List.length_reverse] at hb
  have hlt : ofBits bits <<< (size - bits.length) < 2 ^ 32 := by
    rw [Nat.shiftLeft_eq]
    calc
      ofBits bits * 2 ^ (size - bits.length)
        < 2 ^ bits.length * 2 ^ (size - bits.length) :=
          Nat.mul_lt_mul_of_pos_right hb (Nat.two_pow_pos _)
      _ = 2 ^ size := by rw [← Nat.pow_add]; congr 1; omega
      _ ≤ 2 ^ 32 := Nat.pow_le_pow_right (by omega) hs
  rw [wordOfBits, UInt32.toNat_ofNat_of_lt' hlt]

theorem testBit_wordOfBits {size : Nat} (hs : size ≤ 32) {bits : List Bool}
    (h : bits.length ≤ size) (i : Nat) :
    (wordOfBits size bits).toNat.testBit i =
      (decide (size - bits.length ≤ i) && bits.reverse[i - (size - bits.length)]?.getD false) := by
  have hb := testBit_ofBits bits.reverse (i - (size - bits.length))
  rw [List.reverse_reverse] at hb
  rw [toNat_wordOfBits hs h, Nat.testBit_shiftLeft, hb]

theorem wordOfBits_lt {size : Nat} (hs : size ≤ 32) {bits : List Bool} (h : bits.length ≤ size) :
    (wordOfBits size bits).toNat < 2 ^ size := by
  apply Nat.lt_pow_two_of_testBit
  intro i hi
  have hn : bits.reverse[i - (size - bits.length)]? = none :=
    List.getElem?_eq_none (by rw [List.length_reverse]; omega)
  rw [testBit_wordOfBits hs h, hn]
  simp

theorem wordBits_wordOfBits {size : Nat} (hs : size ≤ 32) {bits : List Bool}
    (h : bits.length ≤ size) :
    wordBits size (wordOfBits size bits) =
      bits ++ List.replicate (size - bits.length) false := by
  apply List.ext_getElem
  · simp only [length_wordBits, List.length_append, List.length_replicate]; omega
  · intro i hi _
    rw [length_wordBits] at hi
    simp only [wordBits, List.getElem_map, List.getElem_reverse, List.getElem_range,
      List.length_range]
    rw [testBit_wordOfBits hs h]
    by_cases hb : i < bits.length
    · have hr : size - 1 - i - (size - bits.length) = bits.length - 1 - i := by omega
      have hl : bits.length - 1 - i < bits.reverse.length := by rw [List.length_reverse]; omega
      have hg : size - bits.length ≤ size - 1 - i := by omega
      have hi : bits.length - 1 - (bits.length - 1 - i) = i := by omega
      rw [List.getElem_append_left hb, hr, List.getElem?_eq_getElem hl, List.getElem_reverse]
      simp [hg, hi]
    · have hg : ¬ size - bits.length ≤ size - 1 - i := by omega
      rw [List.getElem_append_right (by omega), List.getElem_replicate]
      simp [hg]

end RasterText
