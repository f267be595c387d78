import RasterText.Proofs.Grid.Bits
set_option autoImplicit false

namespace RasterText

/-- The place of a bit after the bytes of a block of `bytes` bytes have been reversed. -/
def mirrorBit (bytes i : Nat) : Nat := 8 * (bytes - 1 - i / 8) + i % 8

theorem mirrorBit_lt {bytes i : Nat} (h : i < 8 * bytes) : mirrorBit bytes i < 8 * bytes := by
  simp only [mirrorBit]; omega

theorem mirrorBit_mirrorBit {bytes i : Nat} (h : i < 8 * bytes) :
    mirrorBit bytes (mirrorBit bytes i) = i := by
  simp only [mirrorBit]; omega

theorem testBit_secondByte :
    ∀ i < 32, (0xff00 : UInt32).toNat.testBit i = decide (8 ≤ i ∧ i < 16) := by decide

theorem testBit_thirdByte :
    ∀ i < 32, (0xff0000 : UInt32).toNat.testBit i = decide (16 ≤ i ∧ i < 24) := by decide

theorem testBit_swapBytes (w : UInt32) {i : Nat} (hi : i < 32) :
    (swapBytes w).toNat.testBit i = w.toNat.testBit (mirrorBit 4 i) := by
  have h1 : (w <<< 24).toNat.testBit i = _ := testBit_shiftLeft (by omega : 24 < 32) w i
  have h2 : (w <<< 8).toNat.testBit i = _ := testBit_shiftLeft (by omega : 8 < 32) w i
  have h3 : (w >>> 8).toNat.testBit i = _ := testBit_shiftRight (by omega : 8 < 32) w i
  have h4 : (w >>> 24).toNat.testBit i = _ := testBit_shiftRight (by omega : 24 < 32) w i
  have hr : 8 ≤ i → w.toNat.testBit (24 + i) = false := fun h => testBit_eq_false_of_le w (by omega)
  simp only [swapBytes, UInt32.toNat_or, UInt32.toNat_and, Nat.testBit_or, Nat.testBit_and]
  rw [h1, h2, h3, h4, testBit_secondByte i hi, testBit_thirdByte i hi]
  -- one case for each of the four bytes of the result
  rcases (by omega : i < 8 ∨ 8 ≤ i ∧ i < 16 ∨ 16 ≤ i ∧ i < 24 ∨ 24 ≤ i) with h | h | h | h
  · have hm : mirrorBit 4 i = 24 + i := by simp only [mirrorBit]; omega
    simp [hm, show ¬ 24 ≤ i by omega, show ¬ 16 ≤ i by omega, show ¬ 8 ≤ i by omega]
  · have hm : mirrorBit 4 i = 8 + i := by simp only [mirrorBit]; omega
    simp [hm, hr h.1, h, show ¬ 24 ≤ i by omega, show ¬ 16 ≤ i by omega]
  · have hm : mirrorBit 4 i = i - 8 := by simp only [mirrorBit]; omega
    simp [hm, hr (by omega), h, hi, show ¬ 24 ≤ i by omega, show ¬ i < 16 by omega,
      show 8 ≤ i by omega]
  · have hm : mirrorBit 4 i = i - 24 := by simp only [mirrorBit]; omega
    simp [hm, hr (by omega), h, hi, show ¬ i < 24 by omega, show ¬ i < 16 by omega]

theorem BlockSize.bytes_le (block : BlockSize) : 1 ≤ block.bytes ∧ block.bytes ≤ 4 := by
  cases block <;> decide

theorem BlockSize.bits_pos (block : BlockSize) : 0 < block.bits := by cases block <;> decide

theorem BlockSize.bits_le (block : BlockSize) : block.bits ≤ 32 := by cases block <;> decide

theorem testBit_reverseBytes (block : BlockSize) (w : UInt32) (i : Nat) :
    (block.reverseBytes w).toNat.testBit i =
      (decide (i < block.bits) && w.toNat.testBit (mirrorBit block.bytes i)) := by
  obtain ⟨hl, hu⟩ := block.bytes_le
  have hb : block.bits = 8 * block.bytes := rfl
  rw [BlockSize.reverseBytes, testBit_shiftRight (by omega)]
  by_cases hi : i < block.bits
  · have hm : mirrorBit 4 (32 - block.bits + i) = mirrorBit block.bytes i := by
      simp only [mirrorBit]; omega
    rw [testBit_swapBytes w (by omega), hm]
    simp [hi]
  · rw [testBit_eq_false_of_le _ (by omega)]
    simp [hi]

theorem reverseBytes_reverseBytes {block : BlockSize} {w : UInt32}
    (h : w.toNat < 2 ^ block.bits) : block.reverseBytes (block.reverseBytes w) = w := by
  have hb : block.bits = 8 * block.bytes := rfl
  apply word_ext
  intro i hi
  by_cases hi : i < block.bits
  · have hm : mirrorBit block.bytes i < block.bits := mirrorBit_lt hi
    rw [testBit_reverseBytes, testBit_reverseBytes, mirrorBit_mirrorBit hi]
    simp [hi, hm]
  · have hw : w.toNat.testBit i = false := testBit_eq_false_of_lt h (by omega)
    rw [testBit_reverseBytes, hw]
    simp [hi]

theorem reverseBytes_bits8 {w : UInt32} (h : w.toNat < 2 ^ 8) :
    BlockSize.bits8.reverseBytes w = w := by
  apply word_ext
  intro i hi
  rw [testBit_reverseBytes]
  by_cases hi : i < 8
  · have hm : mirrorBit 1 i = i := by simp only [mirrorBit]; omega
    simp [BlockSize.bits, BlockSize.bytes, BlockSize.index, hi, hm]
  · have hw : w.toNat.testBit i = false := testBit_eq_false_of_lt h (by omega)
    rw [hw]
    simp [BlockSize.bits, BlockSize.bytes, BlockSize.index, hi]

end RasterText
