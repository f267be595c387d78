import Mathlib
import RasterText.Items.Key
import RasterText.Proofs.Text.Utf8
set_option autoImplicit false

namespace RasterText

def hexAlphabet : Text := "0123456789abcdef".toList

def IsHexDigit (c : Char) : Prop := c.toLower ∈ hexAlphabet

/-- The number that digits stand for, each of them sixteen times as much as the one behind it. -/
def numeralValue (digits : Text) : Nat :=
  Nat.ofDigits 16 (digits.reverse.map fun d => hexAlphabet.idxOf d.toLower)

/-- A numeral for `n`, maybe with zeros in front. -/
structure IsNumeral (digits : Text) (n : Nat) : Prop where
  ne_nil : digits ≠ []
  isHexDigit : ∀ d ∈ digits, IsHexDigit d
  value_eq : numeralValue digits = n

section Reading

theorem toLower_of_le {c : Char} (h : 128 ≤ c.toNat) : c.toLower = c := by
  rw [Char.toLower, dif_neg]
  rintro ⟨-, hz⟩
  have hn : c.toNat ≤ 90 := hz
  omega

theorem hexValue?_of_le {c : Char} (h : 128 ≤ c.toNat) : hexValue? c = none := by
  have hle (d : Char) (hd : d.toNat < 128) : ¬ c ≤ d := fun hc => by
    have hn : c.toNat ≤ d.toNat := hc
    omega
  have hdigit : c.isDigit = false := by
    rw [Char.isDigit, Bool.and_eq_false_iff, decide_eq_false_iff_not, decide_eq_false_iff_not]
    exact Or.inr (hle '9' (by decide))
  simp [hexValue?, hdigit, hle]

theorem hexValue?_eq_some_iff {c : Char} {n : Nat} :
    hexValue? c = some n ↔ IsHexDigit c ∧ hexAlphabet.idxOf c.toLower = n := by
  have hsmall : ∀ m < 128, hexValue? (Char.ofNat m) =
      if (Char.ofNat m).toLower ∈ hexAlphabet then
        some (hexAlphabet.idxOf (Char.ofNat m).toLower) else none := by decide +kernel
  rcases Nat.lt_or_ge c.toNat 128 with h | h
  · have hc := hsmall c.toNat h
    rw [Char.ofNat_toNat] at hc
    rw [hc, IsHexDigit, Option.ite_none_right_eq_some, Option.some.injEq]
  · have hall : hexAlphabet.all fun d => (hexValue? d).isSome := by decide
    have hn : ¬ IsHexDigit c := fun hd => by
      rw [IsHexDigit, toLower_of_le h] at hd
      have hc := List.all_eq_true.1 hall c hd
      rw [hexValue?_of_le h] at hc
      cases hc
    simp [hexValue?_of_le h, hn]

theorem numeralValue_cons (d : Char) (digits : Text) :
    numeralValue (d :: digits) =
      hexAlphabet.idxOf d.toLower * 16 ^ digits.length + numeralValue digits := by
  rw [numeralValue, List.reverse_cons, List.map_append, Nat.ofDigits_append]
  simp [numeralValue, Nat.mul_comm, Nat.add_comm]

theorem readHexFrom_eq_some_iff {acc n : Nat} {digits : Text} :
    readHexFrom acc digits = some n ↔
      (∀ d ∈ digits, IsHexDigit d) ∧ acc * 16 ^ digits.length + numeralValue digits = n := by
  induction digits generalizing acc with
  | nil => simp [readHexFrom, numeralValue]
  | cons d digits ih =>
    cases hv : hexValue? d with
    | none =>
      have hd : ¬ IsHexDigit d := fun hd => by
        rw [hexValue?_eq_some_iff.2 ⟨hd, rfl⟩] at hv
        cases hv
      simp [readHexFrom, hv, hd]
    | some v =>
      obtain ⟨hd, rfl⟩ := hexValue?_eq_some_iff.1 hv
      have hsum : (16 * acc + hexAlphabet.idxOf d.toLower) * 16 ^ digits.length +
          numeralValue digits = acc * 16 ^ (d :: digits).length + numeralValue (d :: digits) := by
        rw [numeralValue_cons, List.length_cons]
        ring
      simp only [readHexFrom, hv]
      rw [ih, hsum, List.forall_mem_cons]
      exact and_congr_left fun _ => (and_iff_right hd).symm

theorem readHex_eq_some_iff {digits : Text} {n : Nat} :
    readHex digits = some n ↔ IsNumeral digits n := by
  cases digits with
  | nil => exact ⟨fun h => (by cases h), fun h => absurd rfl h.ne_nil⟩
  | cons d digits =>
    have hr : readHex (d :: digits) = readHexFrom 0 (d :: digits) := rfl
    rw [hr, readHexFrom_eq_some_iff, Nat.zero_mul, Nat.zero_add]
    exact ⟨fun h => ⟨List.cons_ne_nil _ _, h.1, h.2⟩, fun h => ⟨h.isHexDigit, h.value_eq⟩⟩

theorem not_isHexDigit_plus : ¬ IsHexDigit '+' := by
  rw [IsHexDigit]
  decide +kernel

theorem readCode_eq_some_iff {s : Text} {n : Nat} :
    readCode s = some n ↔
      IsNumeral s n ∨ ∃ digits, s = '+' :: digits ∧ IsNumeral digits n := by
  have hplus (digits : Text) : ¬ IsNumeral ('+' :: digits) n := fun h =>
    not_isHexDigit_plus (h.isHexDigit '+' List.mem_cons_self)
  by_cases hs : ∃ digits, s = '+' :: digits
  · obtain ⟨digits, rfl⟩ := hs
    simp [readCode, readHex_eq_some_iff, hplus]
  · have hr : readCode s = readHex s := by
      unfold readCode
      split
      · exact absurd ⟨_, rfl⟩ hs
      · rfl
    rw [hr, readHex_eq_some_iff]
    exact ⟨Or.inl, fun h => h.resolve_right fun ⟨digits, hd, _⟩ => hs ⟨digits, hd⟩⟩

end Reading

def codeMarks : List Text := [['U', '+'], ['u', '+'], ['0', 'x']]

/-- A name that gives the code point of `c`, with `sign` between the mark and the numeral. -/
def CodeName (sign name : Text) (c : Char) : Prop :=
  ∃ mark ∈ codeMarks, ∃ digits, name = mark ++ sign ++ digits ∧ IsNumeral digits c.toNat

/-- The key that the rule gives to a name: the character whose code point the name is made of, or
the name as it is. -/
def IsKeyOf (name key : Text) : Prop :=
  (∃ c, CodeName [] name c ∧ key = [c]) ∨ (∀ c, ¬ CodeName [] name c) ∧ key = name

section Names

variable {name : Text} {c : Char}

theorem codeDigits?_eq_some_iff {rest : Text} :
    codeDigits? name = some rest ↔ ∃ mark ∈ codeMarks, name = mark ++ rest := by
  constructor
  · intro h
    unfold codeDigits? at h
    split at h <;> cases h
    · exact ⟨['U', '+'], by decide, rfl⟩
    · exact ⟨['u', '+'], by decide, rfl⟩
    · exact ⟨['0', 'x'], by decide, rfl⟩
  · rintro ⟨mark, hm, rfl⟩
    simp only [codeMarks, List.mem_cons, List.not_mem_nil, or_false] at hm
    rcases hm with rfl | rfl | rfl <;> rfl

theorem length_mark {mark : Text} (h : mark ∈ codeMarks) : mark.length = 2 := by
  simp only [codeMarks, List.mem_cons, List.not_mem_nil, or_false] at h
  rcases h with rfl | rfl | rfl <;> rfl

theorem namedCharacter?_eq_some_iff :
    namedCharacter? name = some c ↔ CodeName [] name c ∨ CodeName ['+'] name c := by
  have hread : namedCharacter? name = some c ↔
      ∃ rest, codeDigits? name = some rest ∧ readCode rest = some c.toNat := by
    rw [← Option.bind_eq_some_iff, namedCharacter?]
    cases (codeDigits? name).bind readCode with
    | none => simp
    | some n =>
      simp only [Option.ite_none_right_eq_some, Option.some.injEq]
      constructor
      · rintro ⟨hv, rfl⟩
        rw [Char.toNat_ofNat, if_pos hv]
      · rintro rfl
        exact ⟨c.valid, Char.ofNat_toNat c⟩
  rw [hread]
  simp only [codeDigits?_eq_some_iff, readCode_eq_some_iff, CodeName]
  constructor
  · rintro ⟨rest, ⟨mark, hm, rfl⟩, hn | ⟨digits, rfl, hn⟩⟩
    · exact Or.inl ⟨mark, hm, rest, by simp, hn⟩
    · exact Or.inr ⟨mark, hm, digits, by simp, hn⟩
  · rintro (⟨mark, hm, digits, rfl, hn⟩ | ⟨mark, hm, digits, rfl, hn⟩)
    · exact ⟨digits, ⟨mark, hm, by simp⟩, Or.inl hn⟩
    · exact ⟨'+' :: digits, ⟨mark, hm, by simp⟩, Or.inr ⟨digits, rfl, hn⟩⟩

theorem CodeName.not_signed {d : Char} (h : CodeName [] name c) : ¬ CodeName ['+'] name d := by
  obtain ⟨mark, hm, digits, rfl, hn⟩ := h
  rintro ⟨mark', hm', digits', he, -⟩
  rw [List.append_nil, List.append_assoc] at he
  have hd := (List.append_inj he ((length_mark hm).trans (length_mark hm').symm)).2
  exact not_isHexDigit_plus (hn.isHexDigit '+' (by simp [hd]))

theorem CodeName.ne_singleton {sign : Text} (h : CodeName sign name c) (d : Char) :
    name ≠ [d] := by
  obtain ⟨mark, hm, digits, rfl, -⟩ := h
  intro he
  have hl := congrArg List.length he
  simp only [List.length_append, length_mark hm, List.length_singleton] at hl
  omega

theorem isKeyOf_keyOfName_iff :
    IsKeyOf name (keyOfName name) ↔ ∀ c, ¬ CodeName ['+'] name c := by
  cases h : namedCharacter? name with
  | none =>
    have hk : keyOfName name = name := by rw [keyOfName, h]
    have hc (c : Char) : ¬ CodeName [] name c ∧ ¬ CodeName ['+'] name c := by
      rw [← not_or, ← namedCharacter?_eq_some_iff, h]
      exact (Option.some_ne_none c).symm
    rw [hk]
    exact ⟨fun _ c => (hc c).2, fun _ => Or.inr ⟨fun c => (hc c).1, rfl⟩⟩
  | some c =>
    have hk : keyOfName name = [c] := by rw [keyOfName, h]
    rw [hk]
    rcases namedCharacter?_eq_some_iff.1 h with hc | hc
    · exact ⟨fun _ d => hc.not_signed, fun _ => Or.inl ⟨c, hc, rfl⟩⟩
    · refine ⟨fun hkey => ?_, fun hn => absurd hc (hn c)⟩
      rcases hkey with ⟨d, hd, -⟩ | ⟨-, he⟩
      · exact absurd hc hd.not_signed
      · exact absurd he.symm (hc.ne_singleton c)

end Names

def stemBytes? (path : Octets) : Option Octets :=
  (lastName? 0x2e 0x2f path).map fun name => (splitExtension 0x2e name).1

theorem keyOfPath?_eq (path : Octets) :
    keyOfPath? path = ((stemBytes? path).bind Text.ofUtf8?).map keyOfName := by
  rw [keyOfPath?, stemBytes?]
  cases lastName? 0x2e 0x2f path <;> rfl

/-- A path has no key if and only if it has no stem that is a text. The key is that of the rule
unless the stem has a plus sign in front of the code point of a character, which is the key then. -/
theorem keyOfPath?_iff (path : Octets) :
    (keyOfPath? path = none ↔ ∀ stem, stemBytes? path ≠ some (Text.utf8 stem)) ∧
    ∀ stem, stemBytes? path = some (Text.utf8 stem) → ∃ key, keyOfPath? path = some key ∧
      (IsKeyOf stem key ↔ ∀ c, ¬ CodeName ['+'] stem c) ∧
      ∀ c, CodeName ['+'] stem c → key = [c] := by
  constructor
  · rw [keyOfPath?_eq, Option.map_eq_none_iff, Option.eq_none_iff_forall_ne_some]
    refine forall_congr' fun stem => not_congr ?_
    rw [Option.bind_eq_some_iff]
    simp only [Text.ofUtf8?_eq_some_iff]
    exact ⟨fun ⟨bytes, hb, he⟩ => he ▸ hb, fun h => ⟨_, h, rfl⟩⟩
  · intro stem h
    refine ⟨keyOfName stem, ?_, isKeyOf_keyOfName_iff, fun c hc => ?_⟩
    · rw [keyOfPath?_eq, h, Option.bind_some, Text.ofUtf8?_utf8, Option.map_some]
    · rw [keyOfName, namedCharacter?_eq_some_iff.2 (Or.inr hc)]

def signedPath : Octets := Text.utf8 "glyphs/U++41.png".toList

theorem keyOfPath?_iff_signed :
    stemBytes? signedPath = some (Text.utf8 "U++41".toList) ∧
      keyOfPath? signedPath = some ['A'] ∧ ¬ IsKeyOf "U++41".toList ['A'] := by
  have hs : stemBytes? signedPath = some (Text.utf8 "U++41".toList) := by decide
  have hc : CodeName ['+'] "U++41".toList 'A' :=
    ⟨['U', '+'], by decide, ['4', '1'], by decide, readHex_eq_some_iff.1 (by decide)⟩
  obtain ⟨key, hk, hiff, hkey⟩ := (keyOfPath?_iff signedPath).2 _ hs
  rw [hkey 'A' hc] at hk hiff
  exact ⟨hs, hk, fun h => hiff.1 h 'A' hc⟩

end RasterText
