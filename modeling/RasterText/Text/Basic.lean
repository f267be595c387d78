set_option autoImplicit false

/-!
Text is handled as the list of its characters. Offsets into a text count the bytes of its
UTF-8 form, so a span is a pair of byte offsets.
-/

namespace RasterText

abbrev Text := List Char

def Text.byteSize : Text → Nat
  | [] => 0
  | c :: r => c.utf8Size + Text.byteSize r

@[simp] theorem Text.byteSize_nil : Text.byteSize [] = 0 := rfl

@[simp] theorem Text.byteSize_cons (c : Char) (r : Text) :
    Text.byteSize (c :: r) = c.utf8Size + Text.byteSize r := rfl

@[simp] theorem Text.byteSize_append (s t : Text) :
    Text.byteSize (s ++ t) = Text.byteSize s + Text.byteSize t := by
  induction s with
  | nil => simp
  | cons c r ih => simp [ih, Nat.add_assoc]

/-- The half-open range of byte offsets from `start` to `stop`. -/
structure Span where
  start : Nat
  stop : Nat
  deriving DecidableEq, Repr

def decimal (n : Nat) : Text := Nat.toDigits 10 n

def Text.replaceChar (c : Char) (s : Text) (t : Text) : Text :=
  t.flatMap fun d => if d = c then s else [d]

theorem Text.replaceChar_append (c : Char) (s t u : Text) :
    Text.replaceChar c s (t ++ u) = Text.replaceChar c s t ++ Text.replaceChar c s u := by
  simp [Text.replaceChar]

def Text.strip? : Text → Text → Option Text
  | [], t => some t
  | _ :: _, [] => none
  | c :: lead, d :: t => if c = d then Text.strip? lead t else none

theorem Text.strip?_append (lead t : Text) : Text.strip? lead (lead ++ t) = some t := by
  induction lead with
  | nil => rfl
  | cons c lead ih => simp [Text.strip?, ih]

theorem Text.eq_append_of_strip? {lead s t : Text} (h : Text.strip? lead s = some t) :
    s = lead ++ t := by
  induction lead generalizing s with
  | nil => simpa [Text.strip?] using h
  | cons c lead ih =>
    cases s with
    | nil => simp [Text.strip?] at h
    | cons d s =>
      by_cases hc : c = d
      · subst hc
        simp only [Text.strip?] at h
        simp [ih h]
      · simp [Text.strip?, hc] at h

end RasterText
