import RasterText.Charset.Code
import RasterText.Proofs.Text.Numeral
set_option autoImplicit false

namespace RasterText

theorem reverseTail_append {size : Nat} {lead last : Octets} (h : last.length = size) :
    reverseTail size (lead ++ last) = lead ++ last.reverse := by
  have hl : (lead ++ last).length - size = lead.length := by
    rw [List.length_append, h, Nat.add_sub_cancel]
  rw [reverseTail, hl, List.take_left, List.drop_left]

/-- The digits of a number of `count` bytes, the lowest byte first. -/
def reversedDigits : Nat → Nat → Text
  | 0, _ => []
  | count + 1, n => hexDigits 2 n ++ reversedDigits count (n / 256)

namespace Charset

theorem unitBytes_littleEndian (count n : Nat) :
    unitBytes .littleEndian count n = (unitBytes .bigEndian count n).reverse := by
  rw [unitBytes, unitBytes, List.reverse_reverse]

theorem length_unitBytes (order : ByteOrder) (count n : Nat) :
    (unitBytes order count n).length = count := by
  cases order <;> simp [unitBytes]

theorem unitBytes_succ (count n : Nat) :
    unitBytes .bigEndian (count + 1) n = unitBytes .bigEndian count (n / 256) ++ [byte n] := by
  have h (i : Nat) : n >>> (8 * (i + 1)) = (n / 256) >>> (8 * i) := by
    rw [Nat.mul_add, Nat.add_comm, Nat.shiftRight_add, Nat.shiftRight_eq_div_pow n]
  simp [unitBytes, List.range_succ_eq_map, Function.comp_def, h]

theorem digits_byte (n : Nat) : Octets.digits [byte n] = hexDigits 2 n := by
  have hb : (byte n).toNat = n % 256 := by simp [byte]
  have h1 : n % 256 / 16 % 16 = n / 16 % 16 := by omega
  have h2 : n % 256 % 16 = n % 16 := by omega
  rw [Octets.digits, List.flatMap_singleton, hb, hexDigits_two, hexDigits_two, h1, h2]

theorem digits_unitBytes (count n : Nat) :
    (unitBytes .bigEndian count n).digits = hexDigits (2 * count) n := by
  induction count generalizing n with
  | zero => rfl
  | succ count ih =>
    rw [unitBytes_succ, Octets.digits_append, digits_byte, ih, Nat.mul_add, hexDigits_add]
    rfl

theorem digits_reverse_unitBytes (count n : Nat) :
    Octets.digits (unitBytes .bigEndian count n).reverse = reversedDigits count n := by
  induction count generalizing n with
  | zero => rfl
  | succ count ih =>
    rw [unitBytes_succ, List.reverse_append, List.reverse_singleton, Octets.digits_append,
      digits_byte, ih, reversedDigits]

/-- The digits that the code shows for a unit, whose bytes it puts the other way round. -/
def unitDigits (order : ByteOrder) (size n : Nat) : Text :=
  match order with
  | .littleEndian => hexDigits (2 * size) n
  | .bigEndian => reversedDigits size n

theorem digits_reverse_unit (order : ByteOrder) (size n : Nat) :
    Octets.digits (unitBytes order size n).reverse = unitDigits order size n := by
  cases order with
  | littleEndian => rw [unitBytes_littleEndian, List.reverse_reverse, digits_unitBytes, unitDigits]
  | bigEndian => rw [digits_reverse_unitBytes, unitDigits]

theorem encode_utf16_of_lt {c : Char} (h : c.toNat < 0x10000) (marked : Bool) (order : ByteOrder) :
    (utf16 marked order).encode c =
      (if marked then [0xfe, 0xff] else []) ++ unitBytes order 2 c.toNat := by
  simp [encode, bytes?, utf16Bytes, utf16Units, h]

theorem encode_utf16_of_le {c : Char} (h : 0x10000 ≤ c.toNat) (marked : Bool) (order : ByteOrder) :
    (utf16 marked order).encode c = ((if marked then [0xfe, 0xff] else []) ++
      unitBytes order 2 (0xd800 + (c.toNat - 0x10000) / 0x400)) ++
        unitBytes order 2 (0xdc00 + (c.toNat - 0x10000) % 0x400) := by
  simp [encode, bytes?, utf16Bytes, utf16Units, Nat.not_lt.2 h]

def unitSize? : Charset → Option Nat
  | utf16 _ _ => some 2
  | utf32 _ _ => some 4
  | _ => none

section Unit

variable {s : Charset} {size n : Nat} {c : Char} {lead : Octets} {order : ByteOrder}

theorem unitSize_pos (hs : s.unitSize? = some size) : 0 < size := by
  cases s <;> cases hs <;> decide

theorem code_false_of_unit (hs : s.unitSize? = some size)
    (he : s.encode c = lead ++ unitBytes order size n) (hl : lead.length + size ≤ codeLimit) :
    s.code false c = unitDigits order size n := by
  have hu := length_unitBytes order size n
  have hr : (unitBytes order size n).reverse.length = size := by rw [List.length_reverse, hu]
  have ht : (s.encode c).take codeLimit = lead ++ unitBytes order size n := by
    rw [he, List.take_of_length_le (by rw [List.length_append, hu]; exact hl)]
  -- the unit is put the other way round, and what stands before it is dropped
  have hd : (lead ++ (unitBytes order size n).reverse).drop
      ((lead ++ (unitBytes order size n).reverse).length - size) =
        (unitBytes order size n).reverse := by
    rw [List.length_append, hr, Nat.add_sub_cancel, List.drop_left]
  have hc : s.code false c = hexPadded (2 * size) (Octets.bigEndian
      ((reverseTail size ((s.encode c).take codeLimit)).drop
        ((reverseTail size ((s.encode c).take codeLimit)).length - size))) := by
    cases s <;> cases hs <;> rfl
  have hp := Octets.hexPadded_bigEndian (List.length_pos_iff.1 (hr ▸ unitSize_pos hs))
  rw [hr] at hp
  rw [hc, ht, reverseTail_append hu, hd, hp, digits_reverse_unit]

theorem code_true_of_unit (hs : s.unitSize? = some size)
    (he : s.encode c = lead ++ unitBytes order size n) (hl : lead.length = size) :
    s.code true c = lead.digits ++ unitDigits order size n := by
  have hu := length_unitBytes order size n
  have hlimit : size + size ≤ codeLimit := by
    cases s <;> cases hs <;> decide
  have ht : (s.encode c).take codeLimit = lead ++ unitBytes order size n := by
    rw [he, List.take_of_length_le (by rw [List.length_append, hu, hl]; exact hlimit)]
  have hr : (lead ++ (unitBytes order size n).reverse).length = size + size := by
    rw [List.length_append, List.length_reverse, hu, hl]
  have hc : s.code true c = hexPadded (4 * size)
      (Octets.bigEndian (reverseTail size ((s.encode c).take codeLimit))) := by
    cases s <;> cases hs <;> rfl
  have hp := Octets.hexPadded_bigEndian
    (List.length_pos_iff.1 (hr ▸ Nat.add_pos_left (unitSize_pos hs) size))
  rw [hr, ← Nat.two_mul, ← Nat.mul_assoc] at hp
  rw [hc, ht, reverseTail_append hu, hp, Octets.digits_append, digits_reverse_unit]

end Unit

theorem encode_utf32 (marked : Bool) (order : ByteOrder) (c : Char) :
    (utf32 marked order).encode c =
      (if marked then [0x00, 0x00, 0xfe, 0xff] else []) ++ unitBytes order 4 c.toNat := rfl

theorem code_utf32 (marked : Bool) (order : ByteOrder) (c : Char) :
    (utf32 marked order).code false c = unitDigits order 4 c.toNat :=
  code_false_of_unit rfl (encode_utf32 marked order c) (by cases marked <;> decide)

theorem code_utf32_marked (order : ByteOrder) (c : Char) :
    (utf32 true order).code true c = "0000feff".toList ++ unitDigits order 4 c.toNat :=
  code_true_of_unit rfl (encode_utf32 true order c) rfl

theorem code_utf16_of_lt {c : Char} (h : c.toNat < 0x10000) (marked : Bool) (order : ByteOrder) :
    (utf16 marked order).code false c = unitDigits order 2 c.toNat :=
  code_false_of_unit rfl (encode_utf16_of_lt h marked order) (by cases marked <;> decide)

theorem code_utf16_marked_of_lt {c : Char} (h : c.toNat < 0x10000) (order : ByteOrder) :
    (utf16 true order).code true c = "feff".toList ++ unitDigits order 2 c.toNat :=
  code_true_of_unit rfl (encode_utf16_of_lt h true order) rfl

theorem code_utf16_of_le {c : Char} (h : 0x10000 ≤ c.toNat) (marked : Bool) (order : ByteOrder) :
    (utf16 marked order).code false c =
      unitDigits order 2 (0xdc00 + (c.toNat - 0x10000) % 0x400) := by
  refine code_false_of_unit rfl (encode_utf16_of_le h marked order) ?_
  rw [List.length_append, length_unitBytes]
  cases marked <;> decide

theorem code_of_bytes {s : Charset} {c : Char} (hs : s.unitSize? = none)
    (hl : (s.encode c).length ≤ codeLimit) (hn : s.encode c ≠ []) (bom : Bool) :
    s.code bom c = (s.encode c).digits := by
  have hc : s.code bom c = hexPadded (2 * ((s.encode c).take codeLimit).length)
      (Octets.bigEndian ((s.encode c).take codeLimit)) := by
    cases s with
    | utf16 _ _ | utf32 _ _ => cases hs
    | _ => rfl
  rw [hc, List.take_of_length_le hl, Octets.hexPadded_bigEndian hn]

/-- A character that is written at all has some bytes, and no more than count for its code. -/
def FitsCode (bytes? : Option Octets) : Prop :=
  ∀ bytes, bytes? = some bytes → bytes ≠ [] ∧ bytes.length ≤ codeLimit

section FitsCode

variable {o o' : Option Octets}

theorem fitsCode_none : FitsCode none := fun bytes h => by cases h

theorem fitsCode_some {bytes : Octets} (k : Nat) (h : bytes.length = k + 1)
    (hk : k < codeLimit) : FitsCode (some bytes) := fun more hm => by
  cases hm
  exact ⟨List.ne_nil_of_length_eq_add_one h, h ▸ hk⟩

theorem FitsCode.ite {p : Prop} [Decidable p] (h : FitsCode o) (h' : FitsCode o') :
    FitsCode (if p then o else o') := by
  split
  · exact h
  · exact h'

theorem FitsCode.map {α : Type} {f : α → Octets} (hf : ∀ a, FitsCode (some (f a)))
    (places : Option α) : FitsCode (places.map f) := by
  cases places with
  | none => exact fitsCode_none
  | some a => exact hf a

theorem fitsCode_one (a : UInt8) : FitsCode (some [a]) := fitsCode_some 0 rfl (by decide)

theorem fitsCode_pair (a b : UInt8) : FitsCode (some [a, b]) := fitsCode_some 1 rfl (by decide)

end FitsCode

theorem fitsCode_gbDouble? (c : Char) : FitsCode (gbDouble? c) := by
  have hp : FitsCode (gbPrivate? c.toNat) :=
    .ite (fitsCode_pair _ _) (.ite (fitsCode_pair _ _) (.ite (fitsCode_pair _ _) fitsCode_none))
  unfold gbDouble?
  cases h : gbPrivate? c.toNat with
  | some pair =>
    simp only [h]
    exact h ▸ hp
  | none =>
    simp only [h]
    exact .map (fun n => fitsCode_pair _ _) _

theorem fitsCode_upperBytes? (s : Charset) (c : Char) : FitsCode (s.upperBytes? c) := by
  cases s with
  | ascii | utf8 | utf16 _ _ | utf32 _ _ => exact fitsCode_none
  | page p => exact .map (fun i => fitsCode_one _) _
  | userDefined => exact .ite (fitsCode_one _) fitsCode_none
  | shiftJis =>
    rw [upperBytes?, shiftJisBytes?]
    exact .ite (fitsCode_one _) (.ite (fitsCode_one _) (.ite (fitsCode_one _)
      (.ite (fitsCode_one _) (.map (fun n => fitsCode_pair _ _) _))))
  | eucJp =>
    rw [upperBytes?, eucJpBytes?]
    exact .ite (fitsCode_one _) (.ite (fitsCode_one _)
      (.ite (fitsCode_pair _ _) (.map (fun n => fitsCode_pair _ _) _)))
  | iso2022Jp =>
    rw [upperBytes?, iso2022JpBytes?]
    -- an escape sequence of three bytes on either side
    exact .ite (fitsCode_some 6 rfl (by decide)) (.ite (fitsCode_some 6 rfl (by decide))
      (.map (fun n => fitsCode_some 7 rfl (by decide)) _))
  | eucKr =>
    rw [upperBytes?, eucKrBytes?]
    exact .map (fun n => fitsCode_pair _ _) _
  | big5 =>
    rw [upperBytes?, big5Bytes?]
    exact .map (fun n => fitsCode_pair _ _) _
  | gbk =>
    rw [upperBytes?, gbkBytes?]
    exact .ite fitsCode_none (.ite (fitsCode_one _) (fitsCode_gbDouble? c))
  | gb18030 =>
    rw [upperBytes?, gb18030Bytes?]
    refine .ite fitsCode_none ?_
    have hd := fitsCode_gbDouble? c
    cases h : gbDouble? c with
    | some pair => exact h ▸ hd
    | none => exact fitsCode_some 3 rfl (by decide)

theorem fitsCode_bytes? {s : Charset} (hs : s.unitSize? = none) (c : Char) :
    FitsCode (s.bytes? c) := by
  by_cases hu : s = .utf8
  · subst hu
    have hpos := Char.utf8Size_pos c
    have hle := Char.utf8Size_le_four c
    exact fun bytes h => by
      cases h
      rw [← List.length_pos_iff, String.length_utf8EncodeChar]
      exact ⟨hpos, Nat.le_trans hle (by decide)⟩
  · -- a byte below 0x80 stands for itself, but for the controls that begin an escape sequence
    have hb : s.bytes? c = if c.toNat < 0x80 then
        if s = iso2022Jp ∧ c ∈ escapeControls then none else some [byte c.toNat]
      else s.upperBytes? c := by
      cases s with
      | utf8 => exact absurd rfl hu
      | utf16 _ _ | utf32 _ _ => cases hs
      | _ => rfl
    rw [hb]
    exact .ite (.ite fitsCode_none (fitsCode_one _)) (fitsCode_upperBytes? s c)

theorem code_of_bytes? {s : Charset} (hs : s.unitSize? = none) (bom : Bool) (c : Char) :
    match s.bytes? c with
    | some bytes => bytes.length ≤ codeLimit ∧ s.code bom c = bytes.digits
    | none => s.code bom c = "3f".toList := by
  have hf := fitsCode_bytes? hs c
  cases h : s.bytes? c with
  | some bytes =>
    obtain ⟨hn, hl⟩ := hf bytes h
    have he : s.encode c = bytes := by rw [encode, h, Option.getD_some]
    exact ⟨hl, he ▸ code_of_bytes hs (he ▸ hl) (he ▸ hn) bom⟩
  | none =>
    have he : s.encode c = [0x3f] := by rw [encode, h, Option.getD_none]
    have hc := code_of_bytes hs (c := c) (he ▸ by decide) (he ▸ by decide) bom
    rw [he] at hc
    exact hc

end Charset

theorem characterCode_of_label {label : Text} {s : Charset} (h : Charset.ofLabel? label = some s)
    (c : Char) (bom : Bool) : characterCode c label bom = .ok (s.code bom c) := by
  rw [characterCode, h]

theorem isHexDigit_of_mem_characterCode {c : Char} {label : Text} {bom : Bool} {text : Text}
    (h : characterCode c label bom = .ok text) : ∀ d ∈ text, isHexDigit d = true := by
  unfold characterCode at h
  split at h
  · next s hs =>
    cases h
    have hc : ∃ width n, s.code bom c = hexPadded width n := by
      cases bom <;> cases s <;> exact ⟨_, _, rfl⟩
    obtain ⟨width, n, hw⟩ := hc
    rw [hw]
    exact fun d => isHexDigit_of_mem_hexPadded
  · cases h

/-- Codes read in natural order and can be read back. Under UTF-32, and UTF-16 up to its last
single unit, they are the code point, behind the mark if there is room for one. The big-endian forms
come out with their bytes reversed, and of a pair of surrogates the low one remains. Every other
character set shows its bytes. -/
theorem characterCode_natural (c : Char) (bom : Bool) :
    (characterCode c "UTF-32".toList false = .ok (hexDigits 8 c.toNat) ∧
      characterCode c "UTF-32LE".toList false = .ok (hexDigits 8 c.toNat) ∧
      characterCode c "UTF-32".toList true = .ok ("0000feff".toList ++ hexDigits 8 c.toNat) ∧
      characterCode c "UTF-32BE".toList false = .ok (reversedDigits 4 c.toNat) ∧
      readHex (hexDigits 8 c.toNat) = some c.toNat) ∧
    (c.toNat < 0x10000 →
      characterCode c "UTF-16".toList false = .ok (hexDigits 4 c.toNat) ∧
      characterCode c "UTF-16LE".toList false = .ok (hexDigits 4 c.toNat) ∧
      characterCode c "UTF-16".toList true = .ok ("feff".toList ++ hexDigits 4 c.toNat) ∧
      characterCode c "UTF-16BE".toList false = .ok (reversedDigits 2 c.toNat) ∧
      readHex (hexDigits 4 c.toNat) = some c.toNat) ∧
    (0x10000 ≤ c.toNat →
      characterCode c "UTF-16".toList false =
        .ok (hexDigits 4 (0xdc00 + (c.toNat - 0x10000) % 0x400)) ∧
      characterCode c "UTF-16LE".toList false =
        .ok (hexDigits 4 (0xdc00 + (c.toNat - 0x10000) % 0x400))) ∧
    characterCode c "UTF-8".toList bom = .ok (Octets.digits (String.utf8EncodeChar c)) ∧
    (∀ label s, Charset.ofLabel? label = some s → s.unitSize? = none →
      match s.bytes? c with
      | some bytes => bytes.length ≤ codeLimit ∧ Octets.ofDigits? bytes.digits = some bytes ∧
        characterCode c label bom = .ok bytes.digits
      | none => characterCode c label bom = .ok "3f".toList) ∧
    ∀ label text, characterCode c label bom = .ok text → ∀ d ∈ text, isHexDigit d = true := by
  have utf32 := characterCode_of_label
    (show Charset.ofLabel? "UTF-32".toList = some (.utf32 true .littleEndian) by decide) c
  have utf32le := characterCode_of_label
    (show Charset.ofLabel? "UTF-32LE".toList = some (.utf32 false .littleEndian) by decide) c
  have utf32be := characterCode_of_label
    (show Charset.ofLabel? "UTF-32BE".toList = some (.utf32 false .bigEndian) by decide) c
  have utf16 := characterCode_of_label
    (show Charset.ofLabel? "UTF-16".toList = some (.utf16 true .littleEndian) by decide) c
  have utf16le := characterCode_of_label
    (show Charset.ofLabel? "UTF-16LE".toList = some (.utf16 false .littleEndian) by decide) c
  have utf16be := characterCode_of_label
    (show Charset.ofLabel? "UTF-16BE".toList = some (.utf16 false .bigEndian) by decide) c
  have utf8 : Charset.ofLabel? "UTF-8".toList = some .utf8 := by decide
  refine ⟨?_, fun h => ?_, fun h => ?_, ?_, fun label s hs hu => ?_, fun label text h =>
    isHexDigit_of_mem_characterCode h⟩
  · rw [utf32, utf32le, utf32, utf32be, Charset.code_utf32, Charset.code_utf32,
      Charset.code_utf32_marked, Charset.code_utf32]
    exact ⟨rfl, rfl, rfl, rfl, readHex_hexDigits (by decide) c.val.toNat_lt⟩
  · rw [utf16, utf16le, utf16, utf16be, Charset.code_utf16_of_lt h, Charset.code_utf16_of_lt h,
      Charset.code_utf16_marked_of_lt h, Charset.code_utf16_of_lt h]
    exact ⟨rfl, rfl, rfl, rfl, readHex_hexDigits (by decide) h⟩
  · rw [utf16, utf16le, Charset.code_utf16_of_le h, Charset.code_utf16_of_le h]
    exact ⟨rfl, rfl⟩
  · rw [characterCode_of_label utf8]
    exact congrArg Except.ok (Charset.code_of_bytes? (s := .utf8) rfl bom c).2
  · have hc := Charset.code_of_bytes? hu bom c
    cases hb : s.bytes? c with
    | some bytes =>
      simp only [hb] at hc
      rw [characterCode_of_label hs, hc.2]
      exact ⟨hc.1, Octets.ofDigits?_digits bytes, rfl⟩
    | none =>
      simp only [hb] at hc
      rw [characterCode_of_label hs, hc]

theorem characterCode_natural_samples :
    ('A'.toNat < 0x10000 ∧
      characterCode 'A' "UTF-16".toList true = .ok "feff0041".toList ∧
      characterCode 'A' "UTF-16BE".toList false = .ok "4100".toList ∧
      characterCode 'A' "UTF-32".toList true = .ok "0000feff00000041".toList) ∧
    (0x10000 ≤ '😀'.toNat ∧
      characterCode '😀' "UTF-16".toList false = .ok "de00".toList ∧
      characterCode '😀' "UTF-8".toList false = .ok "f09f9880".toList) ∧
    (Charset.ofLabel? "US-ASCII".toList = some .ascii ∧ Charset.ascii.unitSize? = none ∧
      Charset.ascii.bytes? '😀' = none ∧
      characterCode '😀' "US-ASCII".toList false = .ok "3f".toList) := by
  have ha : 'A'.toNat < 0x10000 := by decide
  have hs : 0x10000 ≤ '😀'.toNat := by decide
  have hk : Charset.ofLabel? "US-ASCII".toList = some .ascii := by decide
  have hb : Charset.ascii.bytes? '😀' = none := by decide
  obtain ⟨⟨-, -, hmarked, -⟩, hlow, -⟩ := characterCode_natural 'A' true
  obtain ⟨-, -, hhigh, hutf8, hlabel, -⟩ := characterCode_natural '😀' false
  have h8 : Octets.digits (String.utf8EncodeChar '😀') = "f09f9880".toList := by decide
  have hd : hexDigits 4 (0xdc00 + ('😀'.toNat - 0x10000) % 0x400) = "de00".toList := by decide
  have hmissing := hlabel _ _ hk rfl
  simp only [hb] at hmissing
  exact ⟨⟨ha, (hlow ha).2.2.1, (hlow ha).2.2.2.1, hmarked⟩, ⟨hs, hd ▸ (hhigh hs).1, h8 ▸ hutf8⟩,
    hk, rfl, hb, hmissing⟩

end RasterText
