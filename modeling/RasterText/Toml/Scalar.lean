import RasterText.Toml.Value
import RasterText.Text.Hexadecimal
set_option autoImplicit false

namespace RasterText.Toml

/-- The digits at the front, where a single underscore may stand between two digits. -/
def underscored (isDigit : Char → Bool) : Text → Text × Text
  | '_' :: c :: r =>
    if isDigit c then
      let (digits, rest) := underscored isDigit r
      (c :: digits, rest)
    else ([], '_' :: c :: r)
  | c :: r =>
    if isDigit c then
      let (digits, rest) := underscored isDigit r
      (c :: digits, rest)
    else ([], c :: r)
  | [] => ([], [])

def readDigits (isDigit : Char → Bool) : Text → Option (Text × Text)
  | c :: r =>
    if isDigit c then
      let (digits, rest) := underscored isDigit r
      some (c :: digits, rest)
    else none
  | [] => none

def valueOf (base : Nat) (digits : Text) : Nat :=
  digits.foldl (fun acc c => base * acc + (hexValue? c).getD 0) 0

def leastInteger : Int := -0x8000000000000000

def greatestInteger : Int := 0x7fffffffffffffff

def integer? (n : Int) : Option Value :=
  if leastInteger ≤ n ∧ n ≤ greatestInteger then some (.integer n) else none

def readSign : Text → Bool × Text
  | '+' :: r => (false, r)
  | '-' :: r => (true, r)
  | s => (false, s)

def signed (negative : Bool) (n : Nat) : Int := if negative then -(n : Int) else n

def readWhole : Text → Option (Text × Text)
  | '0' :: r => some (['0'], r)
  | s => readDigits Char.isDigit s

def readExponent (s : Text) : Option (Int × Text) :=
  let (negative, s) := readSign s
  (readDigits Char.isDigit s).map fun (digits, rest) => (signed negative (valueOf 10 digits), rest)

/-- A number in decimal notation that is finite, or too small to be written. -/
def float? (negative : Bool) (digits : Nat) (exponent : Int) : Option Value :=
  match Binary64.ofDecimal negative digits exponent with
  | .infinite false => none
  | x => some (.float x)

def readDecimalTail (negative : Bool) (whole : Text) : Text → Option (Value × Text)
  | '.' :: r => do
    let (fraction, rest) ← readDigits Char.isDigit r
    let places : Int := fraction.length
    let digits := valueOf 10 (whole ++ fraction)
    match rest with
    | e :: after =>
      if e == 'e' || e == 'E' then
        let (exponent, rest) ← readExponent after
        return (← float? negative digits (exponent - places), rest)
      else return (← float? negative digits (-places), rest)
    | [] => return (← float? negative digits (-places), rest)
  | e :: r =>
    if e == 'e' || e == 'E' then do
      let (exponent, rest) ← readExponent r
      return (← float? negative (valueOf 10 whole) exponent, rest)
    else (integer? (signed negative (valueOf 10 whole))).map fun v => (v, e :: r)
  | [] => (integer? (signed negative (valueOf 10 whole))).map fun v => (v, [])

def readBased (base : Nat) (isDigit : Char → Bool) (s : Text) : Option (Value × Text) := do
  let (digits, rest) ← readDigits isDigit s
  return (← integer? (valueOf base digits), rest)

def readNumber : Text → Option (Value × Text)
  | '0' :: 'x' :: r => readBased 16 (fun c => (hexValue? c).isSome) r
  | '0' :: 'o' :: r => readBased 8 (fun c => '0' ≤ c && c ≤ '7') r
  | '0' :: 'b' :: r => readBased 2 (fun c => c == '0' || c == '1') r
  | s =>
    match readSign s with
    | (negative, 'i' :: 'n' :: 'f' :: r) => some (.float (.infinite negative), r)
    | (_, 'n' :: 'a' :: 'n' :: r) => some (.float .nan, r)
    | (negative, s) =>
      match readWhole s with
      | some (whole, rest) => readDecimalTail negative whole rest
      | none => none

def readField (count low high : Nat) (s : Text) : Option (Nat × Text) :=
  let digits := s.take count
  let n := valueOf 10 digits
  if digits.length = count ∧ digits.all Char.isDigit ∧ low ≤ n ∧ n ≤ high then
    some (n, s.drop count)
  else none

def readChar (c : Char) : Text → Option Text
  | d :: r => if c = d then some r else none
  | [] => none

def isLeapYear (year : Nat) : Bool := year % 4 == 0 && (year % 100 != 0 || year % 400 == 0)

def daysInMonth (year month : Nat) : Nat :=
  if month = 2 then (if isLeapYear year then 29 else 28)
  else if month ∈ [4, 6, 9, 11] then 30
  else 31

def zeroPadded (width n : Nat) : Text :=
  List.replicate (width - (decimal n).length) '0' ++ decimal n

def readDate (s : Text) : Option (Text × Text) := do
  let (year, s) ← readField 4 0 9999 s
  let s ← readChar '-' s
  let (month, s) ← readField 2 1 12 s
  let s ← readChar '-' s
  let (day, s) ← readField 2 1 (daysInMonth year month) s
  return (zeroPadded 4 year ++ ['-'] ++ zeroPadded 2 month ++ ['-'] ++ zeroPadded 2 day, s)

/-- A fraction of a second: nine digits count, and zeros at the end are not written. -/
def readSubsecond (s : Text) : Text × Text :=
  match s with
  | '.' :: r =>
    let digits := r.takeWhile Char.isDigit
    if digits = [] then ([], s)
    else
      let kept := ((digits.take 9).reverse.dropWhile (· == '0')).reverse
      (if kept = [] then [] else '.' :: kept, r.drop digits.length)
  | _ => ([], s)

def readTime (lastHour : Nat) (s : Text) : Option (Text × Text) := do
  let (hour, s) ← readField 2 0 lastHour s
  let s ← readChar ':' s
  let (minute, s) ← readField 2 0 59 s
  let s ← readChar ':' s
  let (second, s) ← readField 2 0 60 s
  let (fraction, s) := readSubsecond s
  return (zeroPadded 2 hour ++ [':'] ++ zeroPadded 2 minute ++ [':'] ++ zeroPadded 2 second ++
    fraction, s)

/-- The distance from universal time; none at all is written as `+00:00`. -/
def readOffset (s : Text) : Option (Text × Text) :=
  match s with
  | c :: r =>
    if c == 'Z' || c == 'z' then some (['Z'], r)
    else if c == '+' || c == '-' then do
      let (hour, s) ← readField 2 0 23 r
      let s ← readChar ':' s
      let (minute, s) ← readField 2 0 59 s
      let sign := if hour = 0 ∧ minute = 0 then '+' else c
      return ([sign] ++ zeroPadded 2 hour ++ [':'] ++ zeroPadded 2 minute, s)
    else none
  | [] => none

def readTimeAfterDate (s : Text) : Option (Text × Text) :=
  match s with
  | c :: r =>
    if c == 'T' || c == 't' || c == ' ' then do
      let (time, s) ← readTime 23 r
      match readOffset s with
      | some (offset, s) => return ('T' :: time ++ offset, s)
      | none => return ('T' :: time, s)
    else none
  | [] => none

def readDatetime (s : Text) : Option (Value × Text) :=
  match readDate s with
  | some (date, s) =>
    match readTimeAfterDate s with
    | some (time, s) => some (.datetime (date ++ time), s)
    | none => some (.datetime date, s)
  | none => (readTime 23 s).map fun (time, s) => (.datetime time, s)

def readScalar : Text → Option (Value × Text)
  | 't' :: 'r' :: 'u' :: 'e' :: r => some (.boolean true, r)
  | 'f' :: 'a' :: 'l' :: 's' :: 'e' :: r => some (.boolean false, r)
  | s =>
    match readDatetime s with
    | some found => some found
    | none => readNumber s

end RasterText.Toml
