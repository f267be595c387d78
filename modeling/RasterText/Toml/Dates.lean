import RasterText.Toml.Scalar
set_option autoImplicit false

/-!
Tables that stand for dates. A table whose first key is `dateKey` is the date in the text of that
key, whatever follows; the text may be a little freer than a date in a document.
-/

namespace RasterText.Toml

def dateKey : Text := "$__toml_private_datetime".toList

def dateTextHour : Nat := 24

/-- The greatest distance from universal time in minutes. -/
def offsetLimit : Nat := 24 * 60

/-- The distance from universal time at the end of a date. Its minutes may exceed an hour. -/
def offsetOfText? : Text → Option Text
  | [] => some []
  | ['Z'] | ['z'] => some ['Z']
  | c :: r => do
    if c ≠ '+' ∧ c ≠ '-' then none
    let (hours, s) ← readField 2 0 99 r
    let s ← readChar ':' s
    let (minutes, s) ← readField 2 0 99 s
    let total := 60 * hours + minutes
    if s ≠ [] ∨ offsetLimit < total then none
    let sign := if total = 0 then '+' else c
    return [sign] ++ zeroPadded 2 (total / 60) ++ [':'] ++ zeroPadded 2 (total % 60)

/-- The written form without variants of the date, the time or both in a text. -/
def dateOfText? (s : Text) : Option Text :=
  if s[2]? = some ':' then do
    let (time, s) ← readTime dateTextHour s
    if s = [] then return time else none
  else do
    match ← readDate s with
    | (date, []) => return date
    | (date, c :: s) =>
      if c ∉ ['T', 't', ' '] then none
      let (time, s) ← readTime dateTextHour s
      return date ++ 'T' :: time ++ (← offsetOfText? s)

mutual

/-- The value with dates for the tables that stand for one, if they all have a good text. -/
def Value.withDates? : Value → Option Value
  | .array elements => (withDatesEach? elements).map .array
  | .tables elements => (withDatesEach? elements).map .tables
  | .table kind entries =>
    match entries with
    | (key, text) :: rest =>
      if key = dateKey then
        match text with
        | .string t => (dateOfText? t).map .datetime
        | _ => none
      else do
        let text ← text.withDates?
        return .table kind ((key, text) :: (← withDates? rest))
    | [] => some (.table kind [])
  | v => some v

def withDatesEach? : List Value → Option (List Value)
  | [] => some []
  | v :: rest => do return (← v.withDates?) :: (← withDatesEach? rest)

def withDates? : Entries → Option Entries
  | [] => some []
  | (key, v) :: rest => do return (key, ← v.withDates?) :: (← withDates? rest)

end

end RasterText.Toml
