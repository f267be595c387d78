import RasterText.Proofs.Grid.Packing
set_option autoImplicit false

namespace RasterText

theorem getElem?_flatMap_of_length {α β : Type} {n : Nat} {f : α → List β} {l : List α}
    (hf : ∀ a ∈ l, (f a).length = n) (i : Nat) {k : Nat} (hk : k < n) :
    (l.flatMap f)[i * n + k]? = l[i]?.bind fun a => (f a)[k]? := by
  induction l generalizing i with
  | nil => simp
  | cons a l ih =>
    have ha := hf a (by simp)
    rw [List.flatMap_cons]
    cases i with
    | zero =>
      rw [Nat.zero_mul, Nat.zero_add, List.getElem?_append_left (by omega)]
      simp
    | succ i =>
      have hs : (i + 1) * n + k = n + (i * n + k) := by rw [Nat.succ_mul]; omega
      rw [List.getElem?_append_right (by omega), hs, ha, Nat.add_sub_cancel_left,
        ih (fun b hb => hf b (by simp [hb])), List.getElem?_cons_succ]

theorem getElem?_wordBits {size k : Nat} (hk : k < size) (w : UInt32) :
    (wordBits size w)[k]? = some (w.toNat.testBit (size - 1 - k)) := by
  simp [wordBits, hk]

theorem getElem?_lineBits (mask : UInt32) (samples : List UInt32) (j : Nat) {k : Nat}
    (hk : k < maskBits mask) :
    (lineBits mask samples)[j * maskBits mask + k]? =
      samples[j]?.bind fun w => (bitsAt (selectedBits mask) w)[k]? :=
  getElem?_flatMap_of_length (fun w _ => length_bitsAt mask w) j hk

theorem testBit_packLine {mask : UInt32} {block : BlockSize} {line : List UInt32} {i k : Nat}
    {w : UInt32} (h : (packLine mask block line)[i]? = some w) (hk : k < block.bits) :
    w.toNat.testBit (block.bits - 1 - k) =
      (lineBits mask line)[i * block.bits + k]?.getD false := by
  have hbits : ((packLine mask block line).flatMap (wordBits block.bits))[i * block.bits + k]? =
      some (w.toNat.testBit (block.bits - 1 - k)) := by
    rw [getElem?_flatMap_of_length (fun v _ => length_wordBits block.bits v) i hk, h,
      Option.bind_some, getElem?_wordBits hk]
  rw [bits_packLine, List.getElem?_append] at hbits
  split at hbits
  · rw [hbits, Option.getD_some]
  · next hlt =>
    rw [List.getElem?_eq_none (by omega), Option.getD_none]
    rw [List.getElem?_replicate] at hbits
    split at hbits
    · simpa using hbits.symm
    · simp at hbits

theorem wordOfBits_wordBits {size : Nat} (hs : size ≤ 32) {w : UInt32} (h : w.toNat < 2 ^ size) :
    wordOfBits size (wordBits size w) = w := by
  apply word_ext
  intro i _
  rw [testBit_wordOfBits hs (by simp), length_wordBits, Nat.sub_self, Nat.sub_zero]
  by_cases hi : i < size
  · simp [wordBits, hi]
  · rw [testBit_eq_false_of_lt h (by omega), List.getElem?_eq_none (by simp; omega)]
    simp

theorem selectedBits_lowMask {n : Nat} (hn : n ≤ 32) :
    selectedBits (lowMask n) = (List.range n).reverse := by
  have hlow : (List.range n).filter (fun bit => (lowMask n).toNat.testBit bit) = List.range n :=
    List.filter_eq_self.2 fun bit hb => by
      rw [testBit_lowMask hn]
      exact decide_eq_true (List.mem_range.1 hb)
  have hhigh : ((List.range (32 - n)).map (n + ·)).filter
      (fun bit => (lowMask n).toNat.testBit bit) = [] := by
    simp [List.filter_eq_nil_iff, testBit_lowMask hn]
  have hr : List.range 32 = List.range n ++ (List.range (32 - n)).map (n + ·) := by
    rw [← List.range_add, Nat.add_sub_cancel' hn]
  rw [selectedBits, List.filter_reverse, hr, List.filter_append, hlow, hhigh, List.append_nil]

theorem maskBits_lowMask {n : Nat} (hn : n ≤ 32) : maskBits (lowMask n) = n := by
  rw [← length_selectedBits, selectedBits_lowMask hn, List.length_reverse, List.length_range]

theorem bitsAt_lowMask {n : Nat} (hn : n ≤ 32) (w : UInt32) :
    bitsAt (selectedBits (lowMask n)) w = wordBits n w := by
  rw [selectedBits_lowMask hn]
  rfl

theorem testBit_packLine_lowMask {n : Nat} (hn : n ≤ 32) {block : BlockSize} {samples : List UInt32}
    {i k : Nat} {w : UInt32} (h : (packLine (lowMask n) block samples)[i]? = some w)
    (hk : k < block.bits) {j r : Nat} (hr : r < n) (hplace : i * block.bits + k = j * n + r) :
    w.toNat.testBit (block.bits - 1 - k) =
      (samples[j]?.map fun v => v.toNat.testBit (n - 1 - r)).getD false := by
  have hm := maskBits_lowMask hn
  have hb := getElem?_lineBits (lowMask n) samples j (k := r) (by rwa [hm])
  rw [hm] at hb
  rw [testBit_packLine h hk, hplace, hb]
  cases samples[j]? with
  | none => rfl
  | some v => rw [Option.bind_some, bitsAt_lowMask hn, getElem?_wordBits hr, Option.map_some]

theorem packLine_eq_self {block : BlockSize} {line : List UInt32}
    (h : ∀ w ∈ line, w.toNat < 2 ^ block.bits) :
    packLine (lowMask block.bits) block line = line := by
  have hcut : cut block.bits (line.flatMap (bitsAt (selectedBits (lowMask block.bits)))) =
      line.map (wordBits block.bits) := by
    rw [List.flatMap_def, funext (bitsAt_lowMask block.bits_le)]
    apply cut_flatten block.bits_pos
    intro bits hb
    obtain ⟨w, -, rfl⟩ := List.mem_map.1 hb
    exact length_wordBits block.bits w
  rw [packLine, hcut, List.map_map]
  conv_rhs => rw [← List.map_id line]
  exact List.map_congr_left fun w hw => wordOfBits_wordBits block.bits_le (h w hw)

end RasterText
