import Mathlib.Data.List.Basic
import RasterText.Proofs.Grid.Lines
import RasterText.Proofs.Grid.ByteOrder
set_option autoImplicit false

namespace RasterText

def maskBits (mask : UInt32) : Nat := (List.range 32).countP fun bit => mask.toNat.testBit bit

theorem length_selectedBits (mask : UInt32) : (selectedBits mask).length = maskBits mask := by
  rw [selectedBits, ← List.countP_eq_length_filter, List.countP_reverse, maskBits]

theorem mem_selectedBits {mask : UInt32} {i : Nat} :
    i ∈ selectedBits mask ↔ i < 32 ∧ mask.toNat.testBit i = true := by
  simp [selectedBits]

theorem maskBits_pos {mask : UInt32} (h : mask ≠ 0) : 0 < maskBits mask := by
  rw [← length_selectedBits, List.length_pos_iff]
  intro hn
  apply h
  apply word_ext
  intro i hi
  have hm : i ∉ selectedBits mask := by simp [hn]
  simpa [mem_selectedBits, hi] using hm

def lineBits (mask : UInt32) (line : List UInt32) : List Bool :=
  line.flatMap (bitsAt (selectedBits mask))

theorem length_bitsAt (mask w : UInt32) :
    (bitsAt (selectedBits mask) w).length = maskBits mask := by
  rw [bitsAt, List.length_map, length_selectedBits]

theorem length_lineBits (mask : UInt32) (line : List UInt32) :
    (lineBits mask line).length = line.length * maskBits mask := by
  induction line with
  | nil => simp [lineBits]
  | cons w line ih =>
    have hc : lineBits mask (w :: line) = bitsAt (selectedBits mask) w ++ lineBits mask line := rfl
    rw [hc, List.length_append, length_bitsAt, ih, List.length_cons, Nat.succ_mul, Nat.add_comm]

theorem flatMap_cut_filled {n : Nat} (hn : 0 < n) (l : List Bool) :
    (cut n l).flatMap (fun piece => piece ++ List.replicate (n - piece.length) false) =
      l ++ List.replicate ((cut n l).length * n - l.length) false := by
  cases n with
  | zero => omega
  | succ n =>
    simp only [cut]
    fun_induction cutSucc n l with
    | case1 => simp
    | case2 a rest ih =>
      rw [List.flatMap_cons, ih, List.length_cons, List.length_cons]
      by_cases hr : rest.length ≤ n
      · have hd : rest.drop n = [] := List.drop_eq_nil_of_le hr
        have ht : rest.take n = rest := List.take_of_length_le hr
        rw [hd, ht]
        simp [cutSucc]
      · have ht : (rest.take n).length = n := by rw [List.length_take]; omega
        have hk : n + 1 - (n + 1) = 0 := by omega
        have hl : (cutSucc n (rest.drop n)).length * (n + 1) - (rest.length - n) =
            ((cutSucc n (rest.drop n)).length + 1) * (n + 1) - (rest.length + 1) := by
          rw [Nat.succ_mul]; omega
        rw [ht, hk, List.length_drop, hl, List.length_cons, List.replicate_zero, List.append_nil,
          List.cons_append, List.cons_append, ← List.append_assoc, List.take_append_drop]

theorem length_packLine (mask : UInt32) (block : BlockSize) (line : List UInt32) :
    (packLine mask block line).length =
      (line.length * maskBits mask + block.bits - 1) / block.bits := by
  have hb := length_lineBits mask line
  rw [lineBits] at hb
  rw [packLine, List.length_map, length_cut, hb]

theorem lt_of_mem_packLine {mask : UInt32} {block : BlockSize} {line : List UInt32} {w : UInt32}
    (h : w ∈ packLine mask block line) : w.toNat < 2 ^ block.bits := by
  obtain ⟨bits, hb, rfl⟩ := List.mem_map.1 h
  exact wordOfBits_lt block.bits_le (length_le_of_mem_cut hb)

theorem bits_packLine (mask : UInt32) (block : BlockSize) (line : List UInt32) :
    (packLine mask block line).flatMap (wordBits block.bits) =
      lineBits mask line ++
        List.replicate ((packLine mask block line).length * block.bits -
          line.length * maskBits mask) false := by
  have hf := flatMap_cut_filled block.bits_pos (lineBits mask line)
  rw [length_lineBits] at hf
  have hw : ∀ bits ∈ cut block.bits (lineBits mask line),
      wordBits block.bits (wordOfBits block.bits bits) =
        bits ++ List.replicate (block.bits - bits.length) false :=
    fun bits hb => wordBits_wordOfBits block.bits_le (length_le_of_mem_cut hb)
  calc
    (packLine mask block line).flatMap (wordBits block.bits)
      = (cut block.bits (lineBits mask line)).flatMap
          (fun bits => wordBits block.bits (wordOfBits block.bits bits)) := by
        rw [packLine, List.flatMap_map]; rfl
    _ = (cut block.bits (lineBits mask line)).flatMap
          (fun bits => bits ++ List.replicate (block.bits - bits.length) false) :=
        List.flatMap_congr hw
    _ = _ := by rw [hf, packLine, List.length_map]; rfl

end RasterText
