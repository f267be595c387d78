import RasterText.Toml.Quoted
import RasterText.Toml.Scalar
set_option autoImplicit false

/-!
The lines of a TOML document as statements: a header that opens a table, a header that adds a table
to an array, or a key with its value. Arrays and inline tables may stand inside each other, and the
depth of this is limited, as is the number of parts of a dotted key.
-/

namespace RasterText.Toml

/-- A dotted key: the tables on the way, and the key in the last of them. -/
structure Key where
  path : List Text
  last : Text
  deriving DecidableEq, Repr

/-- The limit that the parts of a key and the depth of values stay below. -/
def depthLimit : Nat := 80

def isBareKeyChar (c : Char) : Bool := c.isAlphanum || c == '_' || c == '-'

def readKeyPart (s : Text) : Option (Text × Text) :=
  match s with
  | '"' :: _ => readString s
  | '\'' :: _ => readString s
  | _ =>
    let name := s.takeWhile isBareKeyChar
    if name = [] then none else some (name, s.drop name.length)

def readKeyParts (s : Text) : Option (List Text × Text) := do
  let (part, rest) ← readKeyPart (s.dropWhile isSpace)
  match rest.dropWhile isSpace with
  | '.' :: more =>
    if _h : more.length < s.length then
      let (parts, rest) ← readKeyParts more
      return (part :: parts, rest)
    else none
  | rest => return ([part], rest)
termination_by s.length

def readKey (s : Text) : Option (Key × Text) := do
  let (parts, rest) ← readKeyParts s
  if parts.length < depthLimit then
    let last ← parts.getLast?
    return (⟨parts.dropLast, last⟩, rest)
  else none

/-- Drops a comment and keeps the end of its line; a control character ends it as well. -/
def skipComment : Text → Text
  | '#' :: r => r.dropWhile isPlain
  | s => s

def skipFiller (s : Text) : Text :=
  match s with
  | '\n' :: r => skipFiller r
  | '\r' :: '\n' :: r => skipFiller r
  | '#' :: r => skipFiller (r.dropWhile isPlain)
  | c :: r => if isSpace c then skipFiller r else c :: r
  | [] => []
termination_by s.length
decreasing_by
  · simp
  · simp only [List.length_cons]; omega
  · have := (List.dropWhile_sublist isPlain (l := r)).length_le
    simp only [List.length_cons]; omega
  · simp

def readItems {α : Type} (readItem : Text → Option (α × Text)) (close : Char)
    (skip : Text → Text) (trailing : Bool) (s : Text) : Option (List α × Text) := do
  let (item, rest) ← readItem (skip s)
  match skip rest with
  | [] => none
  | c :: more =>
    if c = close then return ([item], more)
    else if c = ',' then
      match skip more with
      | [] => none
      | d :: after =>
        if trailing ∧ d = close then return ([item], after)
        else if _h : more.length < s.length then
          let (items, rest) ← readItems readItem close skip trailing more
          return (item :: items, rest)
        else none
    else none
termination_by s.length

def readEnclosed {α : Type} (readItem : Text → Option (α × Text)) (close : Char)
    (skip : Text → Text) (trailing : Bool) (s : Text) : Option (List α × Text) :=
  match readChar close (skip s) with
  | some rest => some ([], rest)
  | none => readItems readItem close skip trailing s

def readPair (readValue : Text → Option (Value × Text)) (s : Text) :
    Option ((Key × Value) × Text) := do
  let (key, s) ← readKey s
  let s ← readChar '=' s
  let (value, s) ← readValue (s.dropWhile isSpace)
  return ((key, value), s)

/-- Adds a value to a table under a dotted key. The tables on the way come into being, and only
such a table, or one of an array, takes part in this; the last one has to be of this kind. -/
def insertPair (last : Text) (value : Value) : List Text → Entries → Option Entries
  | [], entries =>
    if (entries.lookup last).isSome then none else some (entries ++ [(last, value)])
  | k :: path, entries =>
    let further := insertPair last value path
    match entries.lookup k with
    | none => (further []).map fun inner => entries ++ [(k, .table .dotted inner)]
    | some (.table .dotted inner) =>
      (further inner).map fun inner => entries.replace k (.table .dotted inner)
    | some (.table .implied inner) =>
      if path = [] then none
      else (further inner).map fun inner => entries.replace k (.table .implied inner)
    | some (.tables elements) =>
      if path = [] then none
      else (updateLast further elements).map fun elements => entries.replace k (.tables elements)
    | some _ => none

def inlineTable (pairs : List (Key × Value)) : Option Value :=
  (pairs.foldlM (fun entries (p : Key × Value) => insertPair p.1.last p.2 p.1.path entries) []).map
    (.table .inline)

/-- Reads a value in which arrays and inline tables stand at most `depth` deep. -/
def readValue (depth : Nat) (s : Text) : Option (Value × Text) :=
  match s with
  | '[' :: r =>
    match depth with
    | 0 => none
    | d + 1 => (readEnclosed (readValue d) ']' skipFiller true r).map fun (vs, s) => (.array vs, s)
  | '{' :: r =>
    match depth with
    | 0 => none
    | d + 1 => do
      let (pairs, s) ← readEnclosed (readPair (readValue d)) '}' (·.dropWhile isSpace) false r
      return (← inlineTable pairs, s)
  | c :: _ =>
    if c == '"' || c == '\'' then (readAnyString s).map fun (t, s) => (.string t, s)
    else readScalar s
  | [] => none

inductive Statement where
  | table (key : Key)
  | element (key : Key)
  | pair (key : Key) (value : Value)
  deriving Repr

def readLineEnd (s : Text) : Option Text :=
  match skipComment (s.dropWhile isSpace) with
  | [] => some []
  | '\n' :: r => some r
  | '\r' :: '\n' :: r => some r
  | _ => none

def readStatement : Text → Option (Statement × Text)
  | '[' :: '[' :: r => do
    let (key, s) ← readKey r
    let s ← readChar ']' s
    let s ← readChar ']' s
    return (.element key, ← readLineEnd s)
  | '[' :: r => do
    let (key, s) ← readKey r
    let s ← readChar ']' s
    return (.table key, ← readLineEnd s)
  | s => do
    let ((key, value), s) ← readPair (readValue (depthLimit - 1)) s
    return (.pair key value, ← readLineEnd s)

def readStatements (s : Text) : Option (List Statement) :=
  match s with
  | [] => some []
  | '\n' :: r => readStatements r
  | '\r' :: '\n' :: r => readStatements r
  | c :: r =>
    if isSpace c then readStatements r
    else if c = '#' then
      match readLineEnd (c :: r) with
      | some rest => if _h : rest.length < (c :: r).length then readStatements rest else none
      | none => none
    else
      match readStatement (c :: r) with
      | some (statement, rest) =>
        if _h : rest.length < (c :: r).length then
          (readStatements rest).map fun statements => statement :: statements
        else none
      | none => none
termination_by s.length
decreasing_by
  · simp
  · simp only [List.length_cons]; omega
  · simp
  · exact _h
  · exact _h

def statements? : Text → Option (List Statement)
  | '\ufeff' :: r => readStatements r
  | s => readStatements s

end RasterText.Toml
