import RasterText.Text.Basic
set_option autoImplicit false

/-!
Floating-point numbers of 64 bits, read from decimal notation with a half rounded to the even
neighbour, and written with the fewest digits that read back.
-/

namespace RasterText

/-- A finite number is its significand times two to the power of its exponent. The significand is
below `2 ^ 53`, and at least `2 ^ 52` unless the exponent is the least one. -/
inductive Binary64 where
  | finite (negative : Bool) (significand : Nat) (exponent : Int)
  | infinite (negative : Bool)
  | nan
  deriving DecidableEq, Repr

/-- The quotient `num / den`, rounded to the nearest whole number, a half to the even one. -/
def roundQuotient (num den : Nat) : Nat :=
  let q := num / den
  let r := 2 * (num % den)
  if r < den ∨ (r = den ∧ q % 2 = 0) then q else q + 1

def scaleFraction (base num den : Nat) (exponent : Int) : Nat × Nat :=
  if 0 ≤ exponent then (num * Nat.pow base exponent.toNat, den)
  else (num, den * Nat.pow base (-exponent).toNat)

namespace Binary64

def leastExponent : Int := -1074

/-- The exponent at which a number between `2 ^ (bits - 1)` and `2 ^ (bits + 1)` has a significand
of 53 bits, if the least exponent allows that many. -/
def exponentFor (num den : Nat) : Int :=
  let bits : Int := (num.log2 : Int) - (den.log2 : Int)
  let high := bits - 52
  let (n, d) := scaleFraction 2 num den (-high)
  max leastExponent (if n < d <<< 52 then high - 1 else high)

/-- The nearest number to a positive fraction. -/
def ofFraction (negative : Bool) (num den : Nat) : Binary64 :=
  let exponent := exponentFor num den
  let (n, d) := scaleFraction 2 num den (-exponent)
  let s := roundQuotient n d
  let (s, exponent) := if s = 1 <<< 53 then (1 <<< 52, exponent + 1) else (s, exponent)
  if 971 < exponent then infinite negative else finite negative s exponent

def ofDecimal (negative : Bool) (digits : Nat) (exponent : Int) : Binary64 :=
  let places : Int := (decimal digits).length + exponent
  if digits = 0 ∨ places < -330 then finite negative 0 leastExponent
  else if 310 < places then infinite negative
  else
    let (num, den) := scaleFraction 10 digits 1 exponent
    ofFraction negative num den

/-- Whether `digits` times ten to the power of `exponent` lies between the numbers halfway to the
neighbours of a significand with an exponent of two. The ends belong to an even significand. -/
def readsBack (significand : Nat) (binary : Int) (digits : Nat) (exponent : Int) : Bool :=
  let below := if significand = 1 <<< 52 ∧ leastExponent < binary then 1 else 2
  let (x, xd) := scaleFraction 10 (4 * digits) 1 exponent
  let (unit, d) := scaleFraction 2 1 1 binary
  let low := (4 * significand - below) * unit * xd
  let high := (4 * significand + 2) * unit * xd
  if significand % 2 = 0 then low ≤ x * d && x * d ≤ high else low < x * d && x * d < high

/-- The number of decimal places before the point of a positive number, negative if zeros follow
the point. -/
def wholePlaces (significand : Nat) (binary : Int) : Int :=
  let (n, d) := scaleFraction 2 significand 1 binary
  if d ≤ n then (decimal (n / d)).length
  else
    -- the place of the first digit that is not zero
    let inverse := (d + n - 1) / n
    1 - ((decimal (inverse - 1)).length : Int)

def numeralOf (significand : Nat) (binary : Int) (count : Nat) : Option (Nat × Int) :=
  let exponent := wholePlaces significand binary - count
  let (v, vd) := scaleFraction 2 significand 1 binary
  let (n, d) := scaleFraction 10 v vd (-exponent)
  let low := n / d
  let ok := readsBack significand binary
  match ok low exponent, ok (low + 1) exponent with
  | true, true => some (if 2 * (n % d) < d then low else low + 1, exponent)
  | true, false => some (low, exponent)
  | false, true => some (low + 1, exponent)
  | false, false => none

def shortest (significand : Nat) (binary : Int) : Nat × Int :=
  ((List.range 17).findSome? fun i => numeralOf significand binary (i + 1)).getD (0, 0)

def positional (digits : Nat) (exponent : Int) : Text :=
  if 0 ≤ exponent then decimal (digits * Nat.pow 10 exponent.toNat) ++ ".0".toList
  else
    let places := (-exponent).toNat
    let whole := digits / Nat.pow 10 places
    let fraction := decimal (digits % Nat.pow 10 places)
    let padded := List.replicate (places - fraction.length) '0' ++ fraction
    let kept := (padded.reverse.dropWhile (· == '0')).reverse
    decimal whole ++ ['.'] ++ (if kept = [] then ['0'] else kept)

/-- The text of a number: positional, with the fewest digits that read back. -/
def text : Binary64 → Text
  | finite negative significand exponent =>
    let (digits, e) := if significand = 0 then (0, 0) else shortest significand exponent
    (if negative then ['-'] else []) ++ positional digits e
  | infinite negative => (if negative then ['-'] else []) ++ "inf".toList
  | nan => "NaN".toList

end Binary64

end RasterText
