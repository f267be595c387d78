import RasterText.Number.Binary64
set_option autoImplicit false

namespace RasterText.Toml

inductive TableKind where
  | inline
  | header
  /-- Named by a header only on the way to another table. -/
  | implied
  | dotted
  deriving DecidableEq, Repr

inductive Value where
  | string (text : Text)
  | integer (n : Int)
  | float (x : Binary64)
  | boolean (b : Bool)
  /-- A date, a time or both, in the written form that has no variants. -/
  | datetime (text : Text)
  | array (elements : List Value)
  /-- An array of tables with a header each. -/
  | tables (elements : List Value)
  | table (kind : TableKind) (entries : List (Text × Value))
  deriving Repr, Inhabited

/-- The values of a table by key, in document order. -/
abbrev Entries := List (Text × Value)

def Entries.replace (entries : Entries) (key : Text) (value : Value) : Entries :=
  entries.map fun e => if e.1 == key then (key, value) else e

def updateLast (change : Entries → Option Entries) : List Value → Option (List Value)
  | [] => none
  | [.table kind inner] => (change inner).map fun inner => [.table kind inner]
  | v :: vs => (updateLast change vs).map (v :: ·)

def Value.kindName : Value → Text
  | string _ => "string".toList
  | integer _ => "integer".toList
  | float _ => "float".toList
  | boolean _ => "boolean".toList
  | datetime _ => "datetime".toList
  | array _ => "array".toList
  | tables _ => "array of tables".toList
  | table _ _ => "table".toList

end RasterText.Toml
