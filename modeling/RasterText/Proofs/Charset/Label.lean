import Mathlib.Data.List.DropRight
import RasterText.Proofs.Charset.Code
import RasterText.Proofs.Template.NormalForm
set_option autoImplicit false

/-!
The names of character sets. A name is looked for among those that have a meaning of their own here,
and then in the registry of labels, where some of them stand for something else. Both steps pass
over the blanks around a name and the case of its letters, so the table of all labels is searched
only once.
-/

namespace RasterText

section Folding

variable {c : Char}

theorem toUpper_of_le (h : 128 ≤ c.toNat) : c.toUpper = c := by
  rw [Char.toUpper, dif_neg]
  rintro ⟨-, hz⟩
  have hn : c.toNat ≤ 122 := hz
  omega

theorem foldCase_of_le (h : 128 ≤ c.toNat) : Charset.foldCase c = c := by
  rw [Charset.foldCase, if_neg]
  rintro ⟨-, hz⟩
  have hn : c.toNat ≤ 90 := hz
  omega

def isAsciiBlank (c : Char) : Bool :=
  c == ' ' || c == '\t' || c == '\n' || c == '\x0c' || c == '\r'

theorem isBlank_of_isAsciiBlank (h : isAsciiBlank c = true) : isBlank c = true := by
  simp only [isAsciiBlank, Bool.or_eq_true, beq_iff_eq] at h
  rcases h with (((rfl | rfl) | rfl) | rfl) | rfl <;> decide

/-- What holds of the characters of ASCII and of those that have no case holds of all. -/
theorem forall_of_ascii {P : Char → Prop} (hsmall : ∀ n < 128, P (Char.ofNat n))
    (hlarge : ∀ c : Char, 128 ≤ c.toNat → P c) (c : Char) : P c := by
  rcases Nat.lt_or_ge c.toNat 128 with h | h
  · rw [← Char.ofNat_toNat c]
    exact hsmall c.toNat h
  · exact hlarge c h

theorem foldCase_eq (c : Char) : Charset.foldCase c = c.toUpper.toLower := by
  refine forall_of_ascii (P := fun c => Charset.foldCase c = c.toUpper.toLower)
    (by decide +kernel) (fun c h => ?_) c
  rw [foldCase_of_le h, toUpper_of_le h, Char.toLower, dif_neg]
  rintro ⟨-, hz⟩
  have hn : c.toNat ≤ 90 := hz
  omega

theorem toUpper_foldCase (c : Char) : (Charset.foldCase c).toUpper = c.toUpper := by
  refine forall_of_ascii (P := fun c => (Charset.foldCase c).toUpper = c.toUpper)
    (by decide +kernel) (fun c h => ?_) c
  rw [foldCase_of_le h]

theorem isBlank_of_isAsciiBlank_toUpper (h : isAsciiBlank c.toUpper = true) :
    isBlank c = true := by
  revert h
  refine forall_of_ascii (P := fun c => isAsciiBlank c.toUpper = true → isBlank c = true)
    (by decide +kernel) (fun c hc h => ?_) c
  rw [toUpper_of_le hc] at h
  exact isBlank_of_isAsciiBlank h

end Folding

namespace Charset

def search (table : List (Charset × List String)) (label : Text) : Option Charset :=
  (table.find? fun e => e.2.any fun name => name.toList == label).map Prod.fst

/-- The names that do not depend on the registry, in upper case. -/
def ownNames : List (Charset × List String) := [
  (.ascii, ["ASCII", "US-ASCII"]),
  (.utf16 true .littleEndian, ["UTF-16"]),
  (.utf16 false .littleEndian, ["UTF-16LE"]),
  (.utf16 false .bigEndian, ["UTF-16BE"]),
  (.utf32 true .littleEndian, ["UTF-32"]),
  (.utf32 false .littleEndian, ["UTF-32LE"]),
  (.utf32 false .bigEndian, ["UTF-32BE"])]

/-- The labels of the registry, in lower case. ASCII is the page of Western Europe there, and UTF-16
is its little-endian form without a mark. -/
def registeredLabels : List (Charset × List String) :=
  (.utf16 false .littleEndian, ["utf-16", "utf-16le", "csunicode", "iso-10646-ucs-2", "ucs-2",
    "unicode", "unicodefeff"]) ::
  (.utf16 false .bigEndian, ["utf-16be", "unicodefffe"]) ::
  (.page .windows1252, ["ascii", "us-ascii"]) :: labels.drop 7

/-- Looks a label up in the registry, which passes over the blanks of ASCII around it. -/
def registered? (label : Text) : Option Charset :=
  search registeredLabels
    (((label.dropWhile isAsciiBlank).rdropWhile isAsciiBlank).map Char.toLower)

def upperName (name : Text) : Text := (Text.trim name).map Char.toUpper

/-- The character set of a name: that of an own name, or else that of a label. -/
def named? (name : Text) : Option Charset :=
  match search ownNames (upperName name) with
  | some s => some s
  | none => registered? (upperName name)

/-- The names differ in nothing but the blanks around them and the case of ASCII letters. -/
def SameName (a b : Text) : Prop := upperName a = upperName b

theorem search_cons (s : Charset) (names : List String) (table : List (Charset × List String))
    (label : Text) : search ((s, names) :: table) label =
      if label ∈ names.map String.toList then some s else search table label := by
  have h : (names.any fun name => name.toList == label) =
      decide (label ∈ names.map String.toList) := by
    rw [Bool.eq_iff_iff]
    simp
  rw [search, List.find?_cons, h]
  by_cases hm : label ∈ names.map String.toList <;> simp [hm, search]

theorem map_toLower_upperName (name : Text) :
    (upperName name).map Char.toLower = normalizeLabel name := by
  rw [upperName, normalizeLabel, List.map_map]
  exact List.map_congr_left fun c _ => (foldCase_eq c).symm

theorem map_toUpper_normalizeLabel (name : Text) :
    (normalizeLabel name).map Char.toUpper = upperName name := by
  rw [upperName, normalizeLabel, List.map_map]
  exact List.map_congr_left fun c _ => toUpper_foldCase c

theorem registered?_upperName (name : Text) :
    registered? (upperName name) = search registeredLabels (normalizeLabel name) := by
  have hs : (Text.trim name).dropWhile isBlank = Text.trim name :=
    Text.trimStart_trimEnd_trimStart name
  have he : (Text.trim name).rdropWhile isBlank = Text.trim name :=
    List.rdropWhile_idempotent isBlank (Text.trimStart name)
  rw [List.dropWhile_eq_self_iff] at hs
  rw [List.rdropWhile_eq_self_iff] at he
  have hfront : (upperName name).dropWhile isAsciiBlank = upperName name := by
    refine List.dropWhile_eq_self_iff.2 fun hl hb => ?_
    simp only [upperName, List.getElem_map] at hb
    exact hs (by simpa [upperName] using hl) (isBlank_of_isAsciiBlank_toUpper hb)
  have hback : (upperName name).rdropWhile isAsciiBlank = upperName name := by
    refine List.rdropWhile_eq_self_iff.2 fun hl hb => ?_
    simp only [upperName, List.getLast_map] at hb
    exact he (by simpa [upperName] using hl) (isBlank_of_isAsciiBlank_toUpper hb)
  rw [registered?, hfront, hback, map_toLower_upperName]

def ownLabels : List Text := ownNames.flatMap fun e => e.2.map fun name =>
  name.toList.map Char.toLower

theorem search_ownLabel : ∀ label ∈ ownLabels,
    ∃ s, search labels label = some s ∧ search ownNames (label.map Char.toUpper) = some s := by
  have h : ownLabels.all (fun label => (search labels label).any fun s =>
      search ownNames (label.map Char.toUpper) == some s) = true := by decide +kernel
  intro label hl
  obtain ⟨s, hs, ho⟩ := (Option.any_eq_true _ _).1 (List.all_eq_true.1 h label hl)
  exact ⟨s, hs, beq_iff_eq.1 ho⟩

theorem search_ownNames_eq_none {name : Text} (h : normalizeLabel name ∉ ownLabels) :
    search ownNames (upperName name) = none := by
  rw [search, Option.map_eq_none_iff, List.find?_eq_none]
  intro e he hany
  obtain ⟨own, ho, heq⟩ := List.any_eq_true.1 hany
  refine h (List.mem_flatMap.2 ⟨e, he, List.mem_map.2 ⟨own, ho, ?_⟩⟩)
  rw [beq_iff_eq.1 heq, map_toLower_upperName]

theorem labels_eq : labels =
    (.ascii, ["ascii", "us-ascii"]) :: (.utf16 true .littleEndian, ["utf-16"]) ::
    (.utf16 false .littleEndian, ["utf-16le", "csunicode", "iso-10646-ucs-2", "ucs-2", "unicode",
      "unicodefeff"]) ::
    (.utf16 false .bigEndian, ["utf-16be", "unicodefffe"]) ::
    (.utf32 true .littleEndian, ["utf-32"]) :: (.utf32 false .littleEndian, ["utf-32le"]) ::
    (.utf32 false .bigEndian, ["utf-32be"]) :: labels.drop 7 := rfl

theorem search_labels {label : Text} (h : label ∉ ownLabels) :
    search labels label = search registeredLabels label := by
  have ho : label ≠ "ascii".toList ∧ label ≠ "us-ascii".toList ∧ label ≠ "utf-16".toList ∧
      label ≠ "utf-16le".toList ∧ label ≠ "utf-16be".toList ∧ label ≠ "utf-32".toList ∧
      label ≠ "utf-32le".toList ∧ label ≠ "utf-32be".toList := by
    refine ⟨?_, ?_, ?_, ?_, ?_, ?_, ?_, ?_⟩ <;> rintro rfl <;> exact h (by decide)
  rw [labels_eq, registeredLabels]
  simp only [search_cons, List.map_cons, List.map_nil, List.mem_cons, List.not_mem_nil, ho,
    false_or, or_false, if_false]

theorem ofLabel?_eq_named? (name : Text) : ofLabel? name = named? name := by
  have hl : ofLabel? name = search labels (normalizeLabel name) := rfl
  rw [hl, named?]
  by_cases ho : normalizeLabel name ∈ ownLabels
  · obtain ⟨s, hs, hown⟩ := search_ownLabel _ ho
    rw [map_toUpper_normalizeLabel] at hown
    rw [hs, hown]
  · rw [search_ownNames_eq_none ho, registered?_upperName, search_labels ho]

end Charset

theorem characterCode_of_named {name : Text} {s : Charset} (h : Charset.named? name = some s)
    (c : Char) (bom : Bool) : characterCode c name bom = .ok (s.code bom c) :=
  characterCode_of_label (by rw [Charset.ofLabel?_eq_named?, h]) c bom

theorem characterCode_of_unnamed {name : Text} (h : Charset.named? name = none) (c : Char)
    (bom : Bool) : characterCode c name bom = .error ⟨name⟩ := by
  rw [characterCode, Charset.ofLabel?_eq_named?, h]

/-- Names that differ in blanks around them and in the case of ASCII letters name the same character
set, so every character has one code under both; or they name none, and each is refused as it was
given. -/
theorem characterCode_sameName {a b : Text} (h : Charset.SameName a b) (c : Char) (bom : Bool) :
    (∃ s, Charset.named? a = some s ∧ Charset.named? b = some s ∧
      characterCode c a bom = .ok (s.code bom c) ∧ characterCode c b bom = .ok (s.code bom c)) ∨
    (Charset.named? a = none ∧ Charset.named? b = none ∧
      characterCode c a bom = .error ⟨a⟩ ∧ characterCode c b bom = .error ⟨b⟩) := by
  have hab : Charset.named? a = Charset.named? b := by
    rw [Charset.named?, Charset.named?, show Charset.upperName a = Charset.upperName b from h]
  cases hs : Charset.named? a with
  | some s =>
    rw [hs] at hab
    exact .inl ⟨s, rfl, hab.symm, characterCode_of_named hs c bom,
      characterCode_of_named hab.symm c bom⟩
  | none =>
    rw [hs] at hab
    exact .inr ⟨rfl, hab.symm, characterCode_of_unnamed hs c bom,
      characterCode_of_unnamed hab.symm c bom⟩

theorem characterCode_sameName_spellings :
    (Charset.SameName "\u2003Utf-16\x0b".toList "UTF-16".toList ∧
      characterCode 'A' "\u2003Utf-16\x0b".toList true = .ok "feff0041".toList ∧
      characterCode 'A' "UTF-16".toList true = .ok "feff0041".toList) ∧
    (Charset.SameName " utf-7".toList "UTF-7\n".toList ∧
      characterCode 'A' " utf-7".toList true = .error ⟨" utf-7".toList⟩ ∧
      characterCode 'A' "UTF-7\n".toList true = .error ⟨"UTF-7\n".toList⟩) := by
  have hknown : Charset.SameName "\u2003Utf-16\x0b".toList "UTF-16".toList := by
    rw [Charset.SameName]
    decide
  have hother : Charset.SameName " utf-7".toList "UTF-7\n".toList := by
    rw [Charset.SameName]
    decide
  have hcode : characterCode 'A' "UTF-16".toList true = .ok "feff0041".toList := by cbv
  have hnone : Charset.named? " utf-7".toList = none := by decide +kernel
  refine ⟨⟨hknown, ?_, hcode⟩, hother, ?_⟩
  · rcases characterCode_sameName hknown 'A' true with ⟨s, -, -, ha, hb⟩ | ⟨-, -, -, hb⟩
    · rw [ha, ← hb, hcode]
    · rw [hb] at hcode
      cases hcode
  · rcases characterCode_sameName hother 'A' true with ⟨s, hs, -⟩ | ⟨-, -, ha, hb⟩
    · rw [hs] at hnone
      cases hnone
    · exact ⟨ha, hb⟩

end RasterText
