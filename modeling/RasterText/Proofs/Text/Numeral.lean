import Mathlib.Data.List.Induction
import RasterText.Octets
import RasterText.Proofs.Grid.Literals
set_option autoImplicit false

namespace RasterText

/-- The last `width` digits of a number, with zeros for those that it does not have. -/
def hexDigits : Nat → Nat → Text
  | 0, _ => []
  | width + 1, n => hexDigits width (n / 16) ++ [hexDigit (n % 16)]

theorem hexDigits_two (n : Nat) :
    hexDigits 2 n = [hexDigit (n / 16 % 16), hexDigit (n % 16)] := rfl

theorem hexDigits_add (width k n : Nat) :
    hexDigits (width + k) n = hexDigits width (n / 16 ^ k) ++ hexDigits k n := by
  induction k generalizing n with
  | zero => simp [hexDigits]
  | succ k ih =>
    rw [← Nat.add_assoc, hexDigits, ih, hexDigits, Nat.div_div_eq_div_mul, Nat.pow_succ',
      List.append_assoc]

theorem hexDigits_zero (width : Nat) : hexDigits width 0 = List.replicate width '0' := by
  induction width with
  | zero => rfl
  | succ width ih =>
    rw [hexDigits, ih, List.replicate_succ']
    rfl

theorem hexPadded_eq_hexDigits {width n : Nat} (hw : 0 < width) (h : n < 16 ^ width) :
    hexPadded width n = hexDigits width n := by
  induction width generalizing n with
  | zero => omega
  | succ width ih =>
    rw [hexDigits, hexPadded, hexNumeral]
    split
    · next hn =>
      have hd : n / 16 = 0 := by omega
      have hm : n % 16 = n := by omega
      rw [hd, hm, hexDigits_zero]
      rfl
    · next hn =>
      -- the numeral ends in its last digit, and the padding goes before the digits ahead of it
      have hlt : n / 16 < 16 ^ width := Nat.div_lt_of_lt_mul (by rwa [Nat.pow_succ'] at h)
      have hpos : 0 < width := by
        rcases Nat.eq_zero_or_pos width with rfl | hpos
        · omega
        · exact hpos
      rw [← ih hpos hlt, hexPadded, List.length_append, List.length_singleton,
        Nat.add_sub_add_right, List.append_assoc]

theorem readHex_hexDigits {width n : Nat} (hw : 0 < width) (h : n < 16 ^ width) :
    readHex (hexDigits width n) = some n := by
  rw [← hexPadded_eq_hexDigits hw h, readHex_hexPadded]

namespace Octets

def digits (bytes : Octets) : Text := bytes.flatMap fun b => hexDigits 2 b.toNat

@[simp] theorem digits_append (bytes more : Octets) :
    digits (bytes ++ more) = bytes.digits ++ more.digits := List.flatMap_append

def ofDigits? : Text → Option Octets
  | [] => some []
  | high :: low :: rest =>
    match hexValue? high, hexValue? low, ofDigits? rest with
    | some x, some y, some bytes => some (UInt8.ofNat (16 * x + y) :: bytes)
    | _, _, _ => none
  | _ => none

theorem ofDigits?_digits (bytes : Octets) : ofDigits? bytes.digits = some bytes := by
  induction bytes with
  | nil => rfl
  | cons b rest ih =>
    have hb := b.toNat_lt
    have hd : digits (b :: rest) =
        hexDigit (b.toNat / 16 % 16) :: hexDigit (b.toNat % 16) :: digits rest := rfl
    rw [hd, ofDigits?, hexValue?_hexDigit _ (Nat.mod_lt _ (by decide)),
      hexValue?_hexDigit _ (Nat.mod_lt _ (by decide)), ih]
    have hn : 16 * (b.toNat / 16 % 16) + b.toNat % 16 = b.toNat := by omega
    simp [hn]

theorem bigEndian_append_singleton (bytes : Octets) (b : UInt8) :
    bigEndian (bytes ++ [b]) = 256 * bigEndian bytes + b.toNat := by
  rw [bigEndian, List.foldl_append]
  rfl

theorem bigEndian_lt (bytes : Octets) : bigEndian bytes < 16 ^ (2 * bytes.length) := by
  induction bytes using List.reverseRecOn with
  | nil => exact Nat.one_pos
  | append_singleton bytes b ih =>
    have hb := b.toNat_lt
    rw [bigEndian_append_singleton, List.length_append, List.length_singleton, Nat.mul_add,
      Nat.pow_add]
    omega

theorem hexDigits_bigEndian (bytes : Octets) :
    hexDigits (2 * bytes.length) (bigEndian bytes) = bytes.digits := by
  induction bytes using List.reverseRecOn with
  | nil => rfl
  | append_singleton bytes b ih =>
    have hb := b.toNat_lt
    have hh : (256 * bigEndian bytes + b.toNat) / 16 ^ 2 = bigEndian bytes := by omega
    have hl : hexDigits 2 (256 * bigEndian bytes + b.toNat) = hexDigits 2 b.toNat := by
      have h1 : (256 * bigEndian bytes + b.toNat) / 16 % 16 = b.toNat / 16 % 16 := by omega
      have h2 : (256 * bigEndian bytes + b.toNat) % 16 = b.toNat % 16 := by omega
      rw [hexDigits_two, hexDigits_two, h1, h2]
    rw [bigEndian_append_singleton, List.length_append, List.length_singleton, Nat.mul_add,
      hexDigits_add, hh, hl, ih, digits_append]
    simp [digits]

theorem hexPadded_bigEndian {bytes : Octets} (h : bytes ≠ []) :
    hexPadded (2 * bytes.length) (bigEndian bytes) = bytes.digits := by
  have hpos := List.length_pos_iff.2 h
  rw [hexPadded_eq_hexDigits (by omega) bytes.bigEndian_lt, hexDigits_bigEndian]

theorem bigEndian_append (lead last : Octets) :
    bigEndian (lead ++ last) = bigEndian lead * 16 ^ (2 * last.length) + bigEndian last := by
  induction last using List.reverseRecOn with
  | nil => simp [bigEndian]
  | append_singleton last b ih =>
    rw [← List.append_assoc, bigEndian_append_singleton, ih, bigEndian_append_singleton,
      List.length_append, List.length_singleton, Nat.mul_add 2, Nat.pow_add, ← Nat.mul_assoc]
    omega

section Injectivity

variable {bytes more : Octets}

theorem digits_inj (h : bytes.digits = more.digits) : bytes = more := by
  have hb := ofDigits?_digits bytes
  rw [h, ofDigits?_digits] at hb
  exact (Option.some.inj hb).symm

theorem bigEndian_inj (hl : bytes.length = more.length) (h : bigEndian bytes = bigEndian more) :
    bytes = more := by
  refine digits_inj ?_
  rw [← hexDigits_bigEndian, ← hexDigits_bigEndian, hl, h]

end Injectivity

end Octets

end RasterText
