import Mathlib
import RasterText.Proofs.Charset.Code
set_option autoImplicit false

namespace RasterText

namespace Charset

section Units

variable {count n m : Nat}

theorem bigEndian_unitBytes (h : n < 16 ^ (2 * count)) :
    Octets.bigEndian (unitBytes .bigEndian count n) = n := by
  cases count with
  | zero =>
    have hn : n = 0 := by simpa using h
    rw [hn]
    rfl
  | succ count =>
    have hb := Octets.bigEndian_lt (unitBytes .bigEndian (count + 1) n)
    have hd := Octets.hexDigits_bigEndian (unitBytes .bigEndian (count + 1) n)
    rw [length_unitBytes] at hb hd
    rw [digits_unitBytes] at hd
    have hr := readHex_hexDigits (by omega) hb
    rw [hd, readHex_hexDigits (by omega) h] at hr
    exact (Option.some.inj hr).symm

theorem unitBytes_inj {order : ByteOrder} (hn : n < 16 ^ (2 * count)) (hm : m < 16 ^ (2 * count))
    (h : unitBytes order count n = unitBytes order count m) : n = m := by
  have hb : unitBytes .bigEndian count n = unitBytes .bigEndian count m := by
    cases order with
    | bigEndian => exact h
    | littleEndian =>
      rw [unitBytes_littleEndian, unitBytes_littleEndian] at h
      exact List.reverse_injective h
  rw [← bigEndian_unitBytes hn, hb, bigEndian_unitBytes hm]

theorem unitDigits_inj {order : ByteOrder} (hn : n < 16 ^ (2 * count))
    (hm : m < 16 ^ (2 * count)) (h : unitDigits order count n = unitDigits order count m) :
    n = m := by
  rw [← digits_reverse_unit, ← digits_reverse_unit] at h
  exact unitBytes_inj hn hm (List.reverse_injective (Octets.digits_inj h))

theorem bigEndian_append_unit_ne {order : ByteOrder} (mark : Octets) (h0 : 0 < n)
    (hn : n < 16 ^ (2 * count)) :
    Octets.bigEndian (mark ++ unitBytes order count n) ≠ Octets.bigEndian mark := by
  intro h
  rw [Octets.bigEndian_append, length_unitBytes] at h
  have hpow : 0 < 16 ^ (2 * count) := by positivity
  have hle := Nat.le_mul_of_pos_right (Octets.bigEndian mark) hpow
  -- the number of the unit is zero, like that of the unit zero, which it is not
  have hzero : Octets.bigEndian (unitBytes order count 0) = 0 := by
    have hz := bigEndian_unitBytes hpow
    cases order with
    | bigEndian => exact hz
    | littleEndian =>
      have hbyte : ∀ b ∈ unitBytes .bigEndian count 0, b = byte 0 := by simp [unitBytes]
      rw [unitBytes_littleEndian, List.eq_replicate_of_mem hbyte, List.reverse_replicate,
        ← List.eq_replicate_of_mem hbyte, hz]
  have hu : Octets.bigEndian (unitBytes order count n) =
      Octets.bigEndian (unitBytes order count 0) := by omega
  have heq := unitBytes_inj hn hpow
    (Octets.bigEndian_inj (by rw [length_unitBytes, length_unitBytes]) hu)
  omega

end Units

section Unit

variable {s : Charset} {size n m : Nat} {c d : Char} {lead more : Octets} {order : ByteOrder}

/-- With room for a mark the code is the number of all bytes, the last unit put the other way
round. -/
theorem readHex_code_true (hs : s.unitSize? = some size)
    (he : s.encode c = lead ++ unitBytes order size n) (hl : lead.length + size ≤ codeLimit) :
    readHex (s.code true c) =
      some (Octets.bigEndian (lead ++ (unitBytes order size n).reverse)) := by
  have hu := length_unitBytes order size n
  have ht : (s.encode c).take codeLimit = lead ++ unitBytes order size n := by
    rw [he, List.take_of_length_le (by rw [List.length_append, hu]; exact hl)]
  have hc : s.code true c = hexPadded (4 * size)
      (Octets.bigEndian (reverseTail size ((s.encode c).take codeLimit))) := by
    cases s <;> cases hs <;> rfl
  rw [hc, readHex_hexPadded, ht, reverseTail_append hu]

theorem eq_of_code_true (hs : s.unitSize? = some size)
    (he : s.encode c = lead ++ unitBytes order size n) (hl : lead.length + size ≤ codeLimit)
    (he' : s.encode d = more ++ unitBytes order size m) (hl' : more.length + size ≤ codeLimit)
    (h : s.code true c = s.code true d) :
    Octets.bigEndian lead = Octets.bigEndian more ∧
      unitBytes order size n = unitBytes order size m := by
  have hlen (k : Nat) : (unitBytes order size k).reverse.length = size := by
    rw [List.length_reverse, length_unitBytes]
  have hr := readHex_code_true hs he hl
  rw [h, readHex_code_true hs he' hl', Option.some.injEq, Octets.bigEndian_append,
    Octets.bigEndian_append, hlen, hlen] at hr
  -- the unit is the remainder, and what stands before it the quotient
  have hn := Octets.bigEndian_lt (unitBytes order size n).reverse
  have hm := Octets.bigEndian_lt (unitBytes order size m).reverse
  rw [hlen] at hn hm
  have hu : Octets.bigEndian (unitBytes order size n).reverse =
      Octets.bigEndian (unitBytes order size m).reverse := by
    have hmod := congrArg (· % 16 ^ (2 * size)) hr
    simp only [Nat.mul_add_mod_self_right, Nat.mod_eq_of_lt hn, Nat.mod_eq_of_lt hm] at hmod
    exact hmod.symm
  have hlead : Octets.bigEndian lead = Octets.bigEndian more := by
    rw [hu] at hr
    exact (Nat.eq_of_mul_eq_mul_right (by positivity) (Nat.add_right_cancel hr)).symm
  exact ⟨hlead, List.reverse_injective (Octets.bigEndian_inj (by rw [hlen, hlen]) hu)⟩

end Unit

def isUnicode : Charset → Bool
  | utf8 | utf16 _ _ | utf32 _ _ => true
  | _ => false

/-- When two characters have the same code. The low surrogate, which UTF-16 shows alone without room
for a mark, has the last ten bits of the code point. -/
def SharesCode (s : Charset) (bom : Bool) (c d : Char) : Prop :=
  c = d ∨ s.unitSize? = some 2 ∧ bom = false ∧ 0x10000 ≤ c.toNat ∧ 0x10000 ≤ d.toNat ∧
    c.toNat % 0x400 = d.toNat % 0x400

theorem toNat_lt (c : Char) : c.toNat < 0x110000 := by
  rcases c.valid with h | h
  · exact Nat.lt_trans h (by decide)
  · exact h.2

theorem toNat_not_surrogate (c : Char) : c.toNat < 0xd800 ∨ 0xdfff < c.toNat :=
  c.valid.imp id And.left

theorem utf8EncodeChar_inj {c d : Char}
    (h : String.utf8EncodeChar c = String.utf8EncodeChar d) : c = d := by
  have hc := ByteArray.utf8DecodeChar?_utf8EncodeChar_append (b := .empty) (c := c)
  rw [h, ByteArray.utf8DecodeChar?_utf8EncodeChar_append] at hc
  exact (Option.some.inj hc).symm

section Forms

variable {marked bom : Bool} {order : ByteOrder} {c d : Char}

theorem code_utf8_inj (h : utf8.code bom c = utf8.code bom d) : c = d := by
  have hc := (code_of_bytes? (s := utf8) rfl bom c).2
  rw [h, (code_of_bytes? (s := utf8) rfl bom d).2] at hc
  exact (utf8EncodeChar_inj (Octets.digits_inj hc)).symm

theorem code_utf32_inj (h : (utf32 marked order).code bom c = (utf32 marked order).code bom d) :
    c = d := by
  have hc := toNat_lt c
  have hd := toNat_lt d
  refine Char.toNat_inj.1 ?_
  cases bom with
  | false =>
    rw [code_utf32, code_utf32] at h
    exact unitDigits_inj (by omega) (by omega) h
  | true =>
    have hl : (if marked then [0x00, 0x00, 0xfe, 0xff] else [] : Octets).length + 4 ≤
        codeLimit := by cases marked <;> decide
    have hu := eq_of_code_true rfl (encode_utf32 marked order c) hl
      (encode_utf32 marked order d) hl h
    exact unitBytes_inj (by omega) (by omega) hu.2

theorem code_utf16_true_inj
    (h : (utf16 marked order).code true c = (utf16 marked order).code true d) : c = d := by
  have hmark : (if marked then [0xfe, 0xff] else [] : Octets).length ≤ 2 := by
    cases marked <;> decide
  have hone : (if marked then [0xfe, 0xff] else [] : Octets).length + 2 ≤ codeLimit := by
    rw [codeLimit]
    omega
  have htwo (n : Nat) : ((if marked then [0xfe, 0xff] else [] : Octets) ++
      unitBytes order 2 n).length + 2 ≤ codeLimit := by
    rw [List.length_append, length_unitBytes, codeLimit]
    omega
  have hc := toNat_lt c
  have hd := toNat_lt d
  refine Char.toNat_inj.1 ?_
  -- one unit or two for each of the characters
  rcases Nat.lt_or_ge c.toNat 0x10000 with hlc | hlc <;>
    rcases Nat.lt_or_ge d.toNat 0x10000 with hld | hld
  · have hu := eq_of_code_true rfl (encode_utf16_of_lt hlc marked order) hone
      (encode_utf16_of_lt hld marked order) hone h
    exact unitBytes_inj (by omega) (by omega) hu.2
  · have hu := eq_of_code_true rfl (encode_utf16_of_lt hlc marked order) hone
      (encode_utf16_of_le hld marked order) (htwo _) h
    exact absurd hu.1.symm (bigEndian_append_unit_ne _ (by omega) (by omega))
  · have hu := eq_of_code_true rfl (encode_utf16_of_le hlc marked order) (htwo _)
      (encode_utf16_of_lt hld marked order) hone h
    exact absurd hu.1 (bigEndian_append_unit_ne _ (by omega) (by omega))
  · have hu := eq_of_code_true rfl (encode_utf16_of_le hlc marked order) (htwo _)
      (encode_utf16_of_le hld marked order) (htwo _) h
    have hb := Octets.bigEndian_inj (by simp [length_unitBytes]) hu.1
    have hhigh := unitBytes_inj (by omega) (by omega) (List.append_cancel_left hb)
    have hlow := unitBytes_inj (by omega) (by omega) hu.2
    omega

theorem code_utf16_false_iff :
    (utf16 marked order).code false c = (utf16 marked order).code false d ↔
      c = d ∨ 0x10000 ≤ c.toNat ∧ 0x10000 ≤ d.toNat ∧ c.toNat % 0x400 = d.toNat % 0x400 := by
  have hc := toNat_not_surrogate c
  have hd := toNat_not_surrogate d
  rw [← Char.toNat_inj]
  rcases Nat.lt_or_ge c.toNat 0x10000 with hlc | hlc <;>
    rcases Nat.lt_or_ge d.toNat 0x10000 with hld | hld
  · rw [code_utf16_of_lt hlc, code_utf16_of_lt hld]
    refine ⟨fun h => .inl (unitDigits_inj (by omega) (by omega) h), fun h => ?_⟩
    have heq : c.toNat = d.toNat := by omega
    rw [heq]
  -- a low surrogate is no character
  · rw [code_utf16_of_lt hlc, code_utf16_of_le hld]
    refine ⟨fun h => ?_, fun h => by omega⟩
    have heq := unitDigits_inj (by omega) (by omega) h
    omega
  · rw [code_utf16_of_le hlc, code_utf16_of_lt hld]
    refine ⟨fun h => ?_, fun h => by omega⟩
    have heq := unitDigits_inj (by omega) (by omega) h
    omega
  · rw [code_utf16_of_le hlc, code_utf16_of_le hld]
    refine ⟨fun h => ?_, fun h => ?_⟩
    · have heq := unitDigits_inj (by omega) (by omega) h
      omega
    · have heq : (c.toNat - 0x10000) % 0x400 = (d.toNat - 0x10000) % 0x400 := by omega
      rw [heq]

end Forms

theorem code_eq_iff {s : Charset} (hs : s.isUnicode = true) (bom : Bool) (c d : Char) :
    s.code bom c = s.code bom d ↔ s.SharesCode bom c d := by
  constructor
  · intro h
    cases s with
    | utf8 => exact .inl (code_utf8_inj h)
    | utf32 marked order => exact .inl (code_utf32_inj h)
    | utf16 marked order =>
      cases bom with
      | true => exact .inl (code_utf16_true_inj h)
      | false => exact (code_utf16_false_iff.1 h).imp id fun h => ⟨rfl, rfl, h⟩
    | _ => cases hs
  · rintro (rfl | ⟨hu, rfl, h⟩)
    · rfl
    · cases s with
      | utf16 marked order => exact code_utf16_false_iff.2 (.inr h)
      | _ => cases hu

def unicodeLabels : List Text :=
  ["UTF-8".toList, "UTF-16".toList, "UTF-16LE".toList, "UTF-16BE".toList, "UTF-32".toList,
    "UTF-32LE".toList, "UTF-32BE".toList]

def pairLabels : List Text := ["UTF-16".toList, "UTF-16LE".toList, "UTF-16BE".toList]

theorem exists_isUnicode_of_label :
    ∀ label ∈ unicodeLabels, ∃ s, ofLabel? label = some s ∧ s.isUnicode = true ∧
      (s.unitSize? = some 2 ↔ label ∈ pairLabels) := by
  have h : unicodeLabels.all (fun label => (ofLabel? label).any fun s =>
      s.isUnicode && decide (s.unitSize? = some 2 ↔ label ∈ pairLabels)) = true := by decide +kernel
  intro label hl
  obtain ⟨s, hs, hp⟩ := (Option.any_eq_true _ _).1 (List.all_eq_true.1 h label hl)
  rw [Bool.and_eq_true, decide_eq_true_iff] at hp
  exact ⟨s, hs, hp.1, hp.2⟩

end Charset

end RasterText
