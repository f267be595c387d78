import RasterText.Text.Basic
set_option autoImplicit false

namespace RasterText

def hexDigit (n : Nat) : Char :=
  Char.ofNat (if n < 10 then 48 + n else 87 + n)

def hexValue? (c : Char) : Option Nat :=
  if c.isDigit then some (c.toNat - 48)
  else if 'a' ≤ c ∧ c ≤ 'f' then some (c.toNat - 87)
  else if 'A' ≤ c ∧ c ≤ 'F' then some (c.toNat - 55)
  else none

theorem hexValue?_hexDigit : ∀ n, n < 16 → hexValue? (hexDigit n) = some n := by decide

/-- The numeral without leading zeros; zero has one digit. -/
def hexNumeral (n : Nat) : Text :=
  if n < 16 then [hexDigit n] else hexNumeral (n / 16) ++ [hexDigit (n % 16)]

def hexPadded (width n : Nat) : Text :=
  let digits := hexNumeral n
  List.replicate (width - digits.length) '0' ++ digits

/-- Reads digits from the left, on top of the value `acc` of those before. -/
def readHexFrom (acc : Nat) : Text → Option Nat
  | [] => some acc
  | c :: r =>
    match hexValue? c with
    | some d => readHexFrom (16 * acc + d) r
    | none => none

def readHex : Text → Option Nat
  | [] => none
  | s => readHexFrom 0 s

theorem readHexFrom_append {acc n : Nat} {s : Text} (t : Text) (h : readHexFrom acc s = some n) :
    readHexFrom acc (s ++ t) = readHexFrom n t := by
  induction s generalizing acc with
  | nil => simp only [readHexFrom, Option.some.injEq] at h; simp [h]
  | cons c r ih =>
    cases hc : hexValue? c with
    | none => simp [readHexFrom, hc] at h
    | some d =>
      simp only [readHexFrom, hc] at h
      simp only [List.cons_append, readHexFrom, hc]
      exact ih h

theorem readHexFrom_hexNumeral (n : Nat) : readHexFrom 0 (hexNumeral n) = some n := by
  induction n using Nat.strongRecOn with
  | ind n ih =>
    unfold hexNumeral
    split
    · next h => simp [readHexFrom, hexValue?_hexDigit n h]
    · next h =>
      rw [readHexFrom_append _ (ih (n / 16) (by omega))]
      simp only [readHexFrom, hexValue?_hexDigit _ (Nat.mod_lt n (by decide : 0 < 16))]
      simp only [Option.some.injEq]
      omega

theorem readHexFrom_zeros (k : Nat) (s : Text) :
    readHexFrom 0 (List.replicate k '0' ++ s) = readHexFrom 0 s := by
  induction k with
  | zero => rfl
  | succ k ih =>
    have h : hexValue? '0' = some 0 := by decide
    simp [List.replicate_succ, readHexFrom, h, ih]

theorem hexNumeral_ne_nil (n : Nat) : hexNumeral n ≠ [] := by
  unfold hexNumeral
  split <;> simp

theorem readHex_hexPadded (width n : Nat) : readHex (hexPadded width n) = some n := by
  have hne : hexPadded width n ≠ [] := by simp [hexPadded, hexNumeral_ne_nil]
  have hv : readHexFrom 0 (hexPadded width n) = some n := by
    simp [hexPadded, readHexFrom_zeros, readHexFrom_hexNumeral]
  cases h : hexPadded width n with
  | nil => exact absurd h hne
  | cons c r => rw [h] at hv; exact hv

end RasterText
