import RasterText.Grid.Reduction
import RasterText.Grid.Scan
import RasterText.Preset.Builtin
import RasterText.Proofs.Grid.ByteOrder
import RasterText.Proofs.Grid.MatrixBits
set_option autoImplicit false

namespace RasterText

theorem testBit_byte (b : UInt8) {i : Nat} (h : 8 ≤ i) : b.toNat.testBit i = false :=
  Nat.testBit_lt_two_pow (Nat.lt_of_lt_of_le b.toNat_lt (Nat.pow_le_pow_right (by omega) h))

namespace Pixel

variable (p : Pixel)

theorem testBit_word {i : Nat} (hi : i < 32) :
    p.word.toNat.testBit i =
      if i < 8 then p.blue.toNat.testBit i
      else if i < 16 then p.green.toNat.testBit (i - 8)
      else if i < 24 then p.red.toNat.testBit (i - 16)
      else p.alpha.toNat.testBit (i - 24) := by
  have ha : (p.alpha.toUInt32 <<< 24).toNat.testBit i = _ :=
    testBit_shiftLeft (by omega : 24 < 32) _ i
  have hr : (p.red.toUInt32 <<< 16).toNat.testBit i = _ :=
    testBit_shiftLeft (by omega : 16 < 32) _ i
  have hg : (p.green.toUInt32 <<< 8).toNat.testBit i = _ :=
    testBit_shiftLeft (by omega : 8 < 32) _ i
  simp only [word, UInt32.toNat_or, Nat.testBit_or]
  rw [ha, hr, hg]
  simp only [UInt8.toNat_toUInt32]
  -- in each byte, the colours of the bytes below have no bits left
  rcases (by omega : i < 8 ∨ 8 ≤ i ∧ i < 16 ∨ 16 ≤ i ∧ i < 24 ∨ 24 ≤ i) with h | h | h | h
  · simp [h, show ¬ 24 ≤ i by omega, show ¬ 16 ≤ i by omega, show ¬ 8 ≤ i by omega]
  · simp [h, hi, testBit_byte p.blue h.1, show ¬ 24 ≤ i by omega, show ¬ 16 ≤ i by omega,
      show ¬ i < 8 by omega]
  · simp [h, hi, testBit_byte p.blue (by omega : 8 ≤ i),
      testBit_byte p.green (by omega : 8 ≤ i - 8), show ¬ 24 ≤ i by omega,
      show ¬ i < 16 by omega, show ¬ i < 8 by omega]
  · simp [h, hi, testBit_byte p.blue (by omega : 8 ≤ i),
      testBit_byte p.green (by omega : 8 ≤ i - 8), testBit_byte p.red (by omega : 8 ≤ i - 16),
      show ¬ i < 24 by omega, show ¬ i < 16 by omega, show ¬ i < 8 by omega]

theorem testBit_word_blue {i : Nat} (hi : i < 8) :
    p.word.toNat.testBit i = p.blue.toNat.testBit i := by
  rw [testBit_word p (by omega), if_pos hi]

theorem testBit_word_green {i : Nat} (hi : i < 8) :
    p.word.toNat.testBit (8 + i) = p.green.toNat.testBit i := by
  rw [testBit_word p (by omega), if_neg (by omega), if_pos (by omega), Nat.add_sub_cancel_left]

theorem testBit_word_red {i : Nat} (hi : i < 8) :
    p.word.toNat.testBit (16 + i) = p.red.toNat.testBit i := by
  rw [testBit_word p (by omega), if_neg (by omega), if_neg (by omega), if_pos (by omega),
    Nat.add_sub_cancel_left]

theorem toNat_word_mod : p.word.toNat % 2 ^ 8 = p.blue.toNat := by
  apply Nat.eq_of_testBit_eq
  intro i
  rw [Nat.testBit_mod_two_pow]
  by_cases hi : i < 8
  · rw [p.testBit_word_blue hi]
    simp [hi]
  · simp [hi, testBit_byte p.blue (by omega : 8 ≤ i)]

theorem luma_lt : p.luma < 256 := by
  have hr := p.red.toNat_lt
  have hg := p.green.toNat_lt
  have hb := p.blue.toNat_lt
  unfold luma
  omega

theorem toNat_gray : (p.withLevel (UInt8.ofNat p.luma)).word.toNat % 2 ^ 8 = p.luma := by
  have hl := p.luma_lt
  rw [toNat_word_mod]
  simp only [withLevel, UInt8.toNat_ofNat']
  omega

theorem toNat_blackOrWhite :
    (p.withLevel (blackOrWhite 128 p.luma)).word.toNat % 2 = if 128 ≤ p.luma then 1 else 0 := by
  have hw := (p.withLevel (blackOrWhite 128 p.luma)).toNat_word_mod
  have hb : (p.withLevel (blackOrWhite 128 p.luma)).blue.toNat =
      if 128 ≤ p.luma then 255 else 0 := by
    simp only [withLevel, blackOrWhite]
    split <;> rfl
  rw [hb] at hw
  by_cases h : 128 ≤ p.luma
  · rw [if_pos h] at hw ⊢
    omega
  · rw [if_neg h] at hw ⊢
    omega

def blueGreenRed : Nat := p.blue.toNat <<< 16 ||| p.green.toNat <<< 8 ||| p.red.toNat

def highColor : Nat :=
  p.red.toNat >>> 3 <<< 11 ||| p.green.toNat >>> 2 <<< 5 ||| p.blue.toNat >>> 3

end Pixel

def swapPair (v : Nat) : Nat := v % 256 * 256 + v / 256

theorem toNat_reverseBytes_bits16 {w : UInt32} (h : w.toNat < 2 ^ 16) :
    (BlockSize.bits16.reverseBytes w).toNat = swapPair w.toNat := by
  have hd : w.toNat / 2 ^ 8 < 2 ^ 8 := by omega
  have hs : swapPair w.toNat = 2 ^ 8 * (w.toNat % 2 ^ 8) + w.toNat / 2 ^ 8 := by
    simp only [swapPair]; omega
  have hb : BlockSize.bits16.bits = 16 := rfl
  have hy : BlockSize.bits16.bytes = 2 := rfl
  apply Nat.eq_of_testBit_eq
  intro i
  rw [testBit_reverseBytes, hs, Nat.testBit_two_pow_mul_add _ hd, Nat.testBit_mod_two_pow,
    Nat.testBit_div_two_pow, hb, hy]
  rcases (by omega : i < 8 ∨ 8 ≤ i ∧ i < 16 ∨ 16 ≤ i) with hi | hi | hi
  · have hm : mirrorBit 2 i = i + 8 := by simp only [mirrorBit]; omega
    simp [hm, hi, show i < 16 by omega]
  · have hm : mirrorBit 2 i = i - 8 := by simp only [mirrorBit]; omega
    simp [hm, hi, show i - 8 < 8 by omega, show ¬ i < 8 by omega]
  · simp [show ¬ i < 16 by omega, show ¬ i < 8 by omega, show ¬ i - 8 < 8 by omega]

namespace Preset

theorem gathers_of_mem {p : Preset} (h : p ∈ builtins) : p.matrix.Gathers := by
  simp only [builtins, List.mem_cons, List.not_mem_nil, or_false] at h
  rcases h with rfl | rfl | rfl | rfl | rfl <;> exact ⟨rfl, rfl, by decide, by decide⟩

theorem toNat_apply_monochrome (v : UInt32) :
    (monochrome.matrix.apply v).toNat = v.toNat % 2 := by
  have hg : monochrome.matrix.Gathers := gathers_of_mem (by simp [builtins])
  have h := hg.toNat_apply (o := { mask := 0x1 }) (n := 1) rfl (by omega) (by decide) v
  simpa using h

theorem toNat_apply_grayscale4 (v : UInt32) :
    (grayscale4.matrix.apply v).toNat = v.toNat / 16 % 16 := by
  have hg : grayscale4.matrix.Gathers := gathers_of_mem (by simp [builtins])
  exact hg.toNat_apply (o := { mask := 0xf0, shift := 4 }) (n := 4) rfl (by omega) (by decide) v

theorem toNat_apply_grayscale8 (v : UInt32) :
    (grayscale8.matrix.apply v).toNat = v.toNat % 2 ^ 8 := by
  have hg : grayscale8.matrix.Gathers := gathers_of_mem (by simp [builtins])
  have h := hg.toNat_apply (o := { mask := 0xff }) (n := 8) rfl (by omega) (by decide) v
  simpa using h

theorem toNat_apply_colorR8G8B8 (v : UInt32) :
    (colorR8G8B8.matrix.apply v).toNat = v.toNat % 2 ^ 24 := by
  have hg : colorR8G8B8.matrix.Gathers := gathers_of_mem (by simp [builtins])
  have h := hg.toNat_apply (o := { mask := 0xffffff }) (n := 24) rfl (by omega) (by decide) v
  simpa using h

theorem testBit_apply_colorR5G6B5 (v : UInt32) {i : Nat} (hi : i < 32) :
    (colorR5G6B5.matrix.apply v).toNat.testBit i =
      (v.toNat.testBit (8 + i) && decide (11 ≤ i ∧ i < 16) ||
        (v.toNat.testBit (5 + i) && decide (5 ≤ i ∧ i < 11) ||
          v.toNat.testBit (3 + i) && decide (i < 5))) := by
  have hred : ∀ i < 32, (0xf80000 : UInt32).toNat.testBit (8 + i) = decide (11 ≤ i ∧ i < 16) := by
    decide
  have hgreen : ∀ i < 32, (0xfc00 : UInt32).toNat.testBit (5 + i) = decide (5 ≤ i ∧ i < 11) := by
    decide
  have hblue : ∀ i < 32, (0xf8 : UInt32).toNat.testBit (3 + i) = decide (i < 5) := by decide
  have hops : colorR5G6B5.matrix.operations = [{ mask := 0xf80000, shift := 8 },
    { mask := 0xfc00, shift := 5 }, { mask := 0xf8, shift := 3 }] := rfl
  have hg : colorR5G6B5.matrix.Gathers := gathers_of_mem (by simp [builtins])
  rw [hg.testBit_apply v hi, hops]
  simp only [List.any_cons, List.any_nil, Bool.or_false, hred i hi, hgreen i hi, hblue i hi]

theorem apply_colorR5G6B5_lt (v : UInt32) : (colorR5G6B5.matrix.apply v).toNat < 2 ^ 16 := by
  apply Nat.lt_pow_two_of_testBit
  intro i h
  by_cases hi : i < 32
  · rw [testBit_apply_colorR5G6B5 v hi]
    simp [show ¬ i < 16 by omega, show ¬ i < 11 by omega, show ¬ i < 5 by omega]
  · exact testBit_eq_false_of_le _ (by omega)

theorem toNat_apply_colorR5G6B5 (p : Pixel) :
    (colorR5G6B5.matrix.apply p.word).toNat = p.highColor := by
  apply Nat.eq_of_testBit_eq
  intro i
  simp only [Pixel.highColor, Nat.testBit_or, Nat.testBit_shiftLeft, Nat.testBit_shiftRight]
  -- one case for each colour, from the lowest bits up
  rcases (by omega : i < 5 ∨ 5 ≤ i ∧ i < 11 ∨ 11 ≤ i ∧ i < 16 ∨ 16 ≤ i) with h | h | h | h
  · rw [testBit_apply_colorR5G6B5 _ (by omega), p.testBit_word_blue (by omega : 3 + i < 8)]
    simp [h, show ¬ 11 ≤ i by omega, show ¬ 5 ≤ i by omega]
  · rw [testBit_apply_colorR5G6B5 _ (by omega), show 5 + i = 8 + (2 + (i - 5)) by omega,
      p.testBit_word_green (by omega : 2 + (i - 5) < 8)]
    simp [h, testBit_byte p.blue (by omega : 8 ≤ 3 + i), show ¬ 11 ≤ i by omega,
      show ¬ i < 5 by omega]
  · rw [testBit_apply_colorR5G6B5 _ (by omega), show 8 + i = 16 + (3 + (i - 11)) by omega,
      p.testBit_word_red (by omega : 3 + (i - 11) < 8)]
    simp [h, testBit_byte p.blue (by omega : 8 ≤ 3 + i),
      testBit_byte p.green (by omega : 8 ≤ 2 + (i - 5)), show ¬ i < 11 by omega,
      show ¬ i < 5 by omega]
  · rw [testBit_eq_false_of_lt (apply_colorR5G6B5_lt _) h]
    simp [testBit_byte p.blue (by omega : 8 ≤ 3 + i),
      testBit_byte p.green (by omega : 8 ≤ 2 + (i - 5)),
      testBit_byte p.red (by omega : 8 ≤ 3 + (i - 11))]

theorem toNat_blueGreenRed (p : Pixel) :
    (BlockSize.bits24.reverseBytes (colorR8G8B8.matrix.apply p.word)).toNat = p.blueGreenRed := by
  have hb : BlockSize.bits24.bits = 24 := rfl
  have hy : BlockSize.bits24.bytes = 3 := rfl
  apply Nat.eq_of_testBit_eq
  intro i
  rw [testBit_reverseBytes, toNat_apply_colorR8G8B8, Nat.testBit_mod_two_pow, hb, hy]
  simp only [Pixel.blueGreenRed, Nat.testBit_or, Nat.testBit_shiftLeft]
  -- red and blue change places, green stays in the middle
  rcases (by omega : i < 8 ∨ 8 ≤ i ∧ i < 16 ∨ 16 ≤ i ∧ i < 24 ∨ 24 ≤ i) with h | h | h | h
  · have hm : mirrorBit 3 i = 16 + i := by simp only [mirrorBit]; omega
    rw [hm, p.testBit_word_red h]
    simp [show i < 24 by omega, show 16 + i < 24 by omega, show ¬ 8 ≤ i by omega,
      show ¬ 16 ≤ i by omega]
  · have hm : mirrorBit 3 i = 8 + (i - 8) := by simp only [mirrorBit]; omega
    rw [hm, p.testBit_word_green (by omega : i - 8 < 8)]
    simp [h, testBit_byte p.red h.1, show i < 24 by omega, show ¬ 16 ≤ i by omega]
  · have hm : mirrorBit 3 i = i - 16 := by simp only [mirrorBit]; omega
    rw [hm, p.testBit_word_blue (by omega : i - 16 < 8)]
    simp [h, testBit_byte p.red (by omega : 8 ≤ i), testBit_byte p.green (by omega : 8 ≤ i - 8),
      show i - 16 < 24 by omega]
  · simp [testBit_byte p.red (by omega : 8 ≤ i), testBit_byte p.green (by omega : 8 ≤ i - 8),
      testBit_byte p.blue (by omega : 8 ≤ i - 16), show ¬ i < 24 by omega]

end Preset

end RasterText
