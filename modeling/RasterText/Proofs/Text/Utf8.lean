import Mathlib.Tactic.SplitIfs
import RasterText.Text.Utf8
set_option autoImplicit false

namespace RasterText

theorem utf8EncodeChar_of_lt {c : Char} (h : c.toNat < 0x80) :
    String.utf8EncodeChar c = [UInt8.ofNat c.toNat] := by
  have hv : c.val.toNat ≤ 127 := Nat.le_of_lt_succ h
  simp only [String.utf8EncodeChar, if_pos hv]
  rfl

theorem toNat_of_mem_utf8EncodeChar {c : Char} {b : UInt8} (h : b ∈ String.utf8EncodeChar c) :
    c.toNat = b.toNat ∨ 0x80 ≤ b.toNat := by
  have hc : c.toNat = c.val.toNat := rfl
  simp only [String.utf8EncodeChar] at h
  split_ifs at h <;> simp only [List.mem_cons, List.not_mem_nil, or_false] at h
  · rw [h, UInt8.toNat_ofNat']
    omega
  · rcases h with h | h <;> rw [h, UInt8.toNat_ofNat'] <;> omega
  · rcases h with h | h | h <;> rw [h, UInt8.toNat_ofNat'] <;> omega
  · rcases h with h | h | h | h <;> rw [h, UInt8.toNat_ofNat'] <;> omega

theorem mem_utf8EncodeChar_of_lt {a c : Char} (ha : a.toNat < 0x80) :
    UInt8.ofNat a.toNat ∈ String.utf8EncodeChar c ↔ a = c := by
  have hb : (UInt8.ofNat a.toNat).toNat = a.toNat := by
    rw [UInt8.toNat_ofNat']
    omega
  constructor
  · intro h
    rcases toNat_of_mem_utf8EncodeChar h with h | h
    · exact Char.toNat_inj.1 (hb.symm.trans h.symm)
    · omega
  · rintro rfl
    rw [utf8EncodeChar_of_lt ha]
    exact List.mem_singleton_self _

/-- The greater character has the greater byte where the bytes of two characters part, and neither
form goes on as the other. -/
theorem utf8EncodeChar_append_lt {c d : Char} (h : c < d) (x y : Octets) :
    String.utf8EncodeChar c ++ x < String.utf8EncodeChar d ++ y := by
  have hlt : c.val.toNat < d.val.toNat := h
  have hd : d.val.toNat < 0x110000 := by
    rcases d.valid with h | ⟨-, h⟩ <;> omega
  -- all bytes but the first hold digits to the base 64, which are those of the quotients in turn
  have htwo (n : Nat) : n / 4096 = n / 64 / 64 := by omega
  have hthree (n : Nat) : n / 262144 = n / 64 / 64 / 64 := by omega
  simp only [String.utf8EncodeChar]
  split_ifs <;>
    simp only [List.cons_append, List.nil_append, List.cons_lt_cons_iff, UInt8.lt_iff_toNat_lt,
      ← UInt8.toNat_inj, UInt8.toNat_ofNat', htwo, hthree] <;>
    omega

namespace Text

@[simp] theorem utf8_nil : utf8 [] = [] := rfl

theorem utf8_cons (c : Char) (t : Text) : utf8 (c :: t) = String.utf8EncodeChar c ++ utf8 t := rfl

theorem utf8_append (s t : Text) : utf8 (s ++ t) = utf8 s ++ utf8 t := List.flatMap_append

theorem utf8_cons_of_lt {a : Char} (ha : a.toNat < 0x80) (t : Text) :
    utf8 (a :: t) = UInt8.ofNat a.toNat :: utf8 t := by
  rw [utf8_cons, utf8EncodeChar_of_lt ha]
  rfl

theorem mem_utf8_of_lt {a : Char} (ha : a.toNat < 0x80) {t : Text} :
    UInt8.ofNat a.toNat ∈ utf8 t ↔ a ∈ t := by
  simp [utf8, List.mem_flatMap, mem_utf8EncodeChar_of_lt ha]

theorem utf8_lt_utf8 {s t : Text} (h : s < t) : utf8 s < utf8 t := by
  induction s generalizing t with
  | nil =>
    cases t with
    | nil => exact absurd h (List.not_lt_nil [])
    | cons d t =>
      obtain ⟨b, rest, hd⟩ := List.exists_cons_of_ne_nil (String.utf8EncodeChar_ne_nil (c := d))
      rw [utf8_nil, utf8_cons, hd]
      exact List.nil_lt_cons _ _
  | cons c s ih =>
    cases t with
    | nil => exact absurd h (List.not_lt_nil _)
    | cons d t =>
      rw [utf8_cons, utf8_cons]
      rcases List.cons_lt_cons_iff.1 h with hlt | ⟨rfl, hr⟩
      · exact utf8EncodeChar_append_lt hlt _ _
      · exact List.append_left_lt (ih hr)

theorem toArray_utf8 (t : Text) : ByteArray.mk (utf8 t).toArray = t.utf8Encode :=
  ByteArray.ext List.data_toByteArray.symm

theorem ofUtf8?_utf8 (t : Text) : ofUtf8? (utf8 t) = some t := by
  have hs : String.fromUTF8 t.utf8Encode ByteArray.isValidUTF8_utf8Encode = String.ofList t :=
    String.toByteArray_inj.1 String.toByteArray_ofList.symm
  rw [ofUtf8?, toArray_utf8, String.fromUTF8?, dif_pos ByteArray.isValidUTF8_utf8Encode, hs,
    Option.map_some, String.toList_ofList]

theorem ofUtf8?_eq_some_iff {bytes : Octets} {t : Text} :
    ofUtf8? bytes = some t ↔ bytes = utf8 t := by
  refine ⟨fun h => ?_, fun h => h ▸ ofUtf8?_utf8 t⟩
  by_cases hv : (ByteArray.mk bytes.toArray).IsValidUTF8
  · obtain ⟨m, hm⟩ := hv
    rw [← toArray_utf8] at hm
    have hb : bytes = utf8 m := by simpa using hm
    rw [hb, ofUtf8?_utf8] at h
    rw [hb, Option.some.inj h]
  · rw [ofUtf8?, String.fromUTF8?, dif_neg hv] at h
    cases h

theorem utf8_inj {s t : Text} : utf8 s = utf8 t ↔ s = t := by
  refine ⟨fun h => ?_, fun h => h ▸ rfl⟩
  have hs := ofUtf8?_utf8 s
  rw [h, ofUtf8?_utf8] at hs
  exact (Option.some.inj hs).symm

end Text

end RasterText
