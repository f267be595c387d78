import RasterText.Preset.FieldError
import RasterText.Toml.Assembly
set_option autoImplicit false

/-!
Settings from the entries of a TOML document. Every setting may be left out, unknown keys are passed
over, and the first value that does not fit ends the reading. A section is a table, or a sequence of
values that stand for its settings in their order.
-/

namespace RasterText

open Toml (Value Entries)

/-- Where a document comes from. -/
inductive Loader where
  /-- A text: settings are taken in the order of the document. -/
  | text
  /-- A file: settings are taken in the order of their names, a date is as good as a string, and a
  sequence must not be longer than the section that it stands for. -/
  | file
  deriving DecidableEq, Repr

namespace Loader

def insertByKey (e : Text × Value) : Entries → Entries
  | [] => [e]
  | x :: rest => if e.1 < x.1 then e :: x :: rest else x :: insertByKey e rest

def order : Loader → Entries → Entries
  | text, entries => entries
  | file, entries => entries.foldr insertByKey []

/-- What a value counts as when it is not a name. -/
def plain : Loader → Value → Value
  | file, .datetime t => .string t
  | _, v => v

def notAName : Loader → FieldFault
  | text => .notAName
  | file => .notOnlyAName

end Loader

def Found.ofValue : Value → Found
  | .boolean b => boolean b
  | .integer n => integer n
  | .float x => float x
  | .string t => string t
  | .array _ | .tables _ => sequence
  | .datetime _ | .table _ _ => map

/-- The result of reading a value: what was read, or the first fault and the way to it. -/
abbrev Reading (α : Type) := Except FieldError α

def Reading.fail {α : Type} (fault : FieldFault) : Reading α := .error ⟨[], fault⟩

def Reading.under {α : Type} (key : Text) : Reading α → Reading α
  | .ok a => .ok a
  | .error e => .error { e with path := key :: e.path }

def wrongType {α : Type} (v : Value) (expected : Text) : Reading α :=
  .fail (.wrongType (.ofValue v) expected)

namespace Loader

def readText (l : Loader) (v : Value) : Reading Text :=
  match l.plain v with
  | .string t => .ok t
  | w => wrongType w "a string".toList

def readPath (l : Loader) (v : Value) : Reading Text :=
  match l.plain v with
  | .string t => .ok t
  | w => wrongType w "path string".toList

def readBool (l : Loader) (v : Value) : Reading Bool :=
  match l.plain v with
  | .boolean b => .ok b
  | w => wrongType w "a boolean".toList

def readUnsigned (l : Loader) (bits : Nat) (v : Value) : Reading Nat :=
  let expected := 'u' :: decimal bits
  match l.plain v with
  | .integer n =>
    if 0 ≤ n ∧ n.toNat < 1 <<< bits then .ok n.toNat else .fail (.outOfRange n expected)
  | w => wrongType w expected

def readWord (l : Loader) (v : Value) : Reading UInt32 := do
  return UInt32.ofNat (← l.readUnsigned 32 v)

def readBlockSize (l : Loader) (v : Value) : Reading BlockSize := do
  let n ← l.readUnsigned 32 v
  match BlockSize.ofBits? n with
  | some b => return b
  | none => .fail (.unsupportedBlockSize n)

def meaning {α : Type} (names : List (Text × α)) (given : Text) : Reading α :=
  match names.lookup given with
  | some a => .ok a
  | none => .fail (.unknownName given (names.map Prod.fst))

/-- A name in a table has to stand with an empty value. -/
def readNothing (l : Loader) : Value → Reading Unit
  | .array [] => .ok ()
  | .array _ => .fail (if l = file then .filledArray else .filledTable)
  | .tables [] => .ok ()
  | .tables _ => .fail .filledArray
  | .table _ [] => .ok ()
  | .table _ _ => .fail .filledTable
  | v => .fail (.notATable v.kindName)

/-- One of several names, as a string or as the only key of a table. -/
def readName {α : Type} (l : Loader) (names : List (Text × α)) : Value → Reading α
  | .string t => meaning names t
  | .table _ [] => .fail .noEntry
  | .table _ [(key, v)] => do
    let a ← meaning names key
    l.readNothing v
    return a
  | .table _ _ => .fail .manyEntries
  | _ => .fail l.notAName

end Loader

/-- A setting of a section: its key, and how a value changes what was read so far. -/
structure Field (σ : Type) where
  key : Text
  set : Value → σ → Reading σ

namespace Loader

def readEntries {σ : Type} (l : Loader) (fields : List (Field σ)) (start : σ)
    (entries : Entries) : Reading σ :=
  (l.order entries).foldlM (fun s e =>
    match fields.find? (·.key == e.1) with
    | some field => .under e.1 (field.set e.2 s)
    | none => .ok s) start

/-- Reads the values of a sequence, which stand for the fields in their order. -/
def readElements {σ : Type} (fields : List (Field σ)) (start : σ) (elements : List Value) :
    Reading σ :=
  (fields.zip elements).foldlM (fun s (x : Field σ × Value) => x.1.set x.2 s) start

def checkLength (l : Loader) (fieldCount : Nat) (elements : List Value) : Reading Unit :=
  if l = file ∧ fieldCount < elements.length then
    .fail (.wrongLength elements.length "fewer elements in array".toList)
  else .ok ()

/-- Reads a section, whose settings start from `start`. -/
def readSection {σ : Type} (l : Loader) (name : Text) (fields : List (Field σ)) (start : σ)
    (v : Value) : Reading σ :=
  match l.plain v with
  | .table _ entries => l.readEntries fields start entries
  | .datetime _ => .ok start
  | .array elements | .tables elements => do
    let s ← readElements fields start elements
    l.checkLength fields.length elements
    return s
  | w => wrongType w ("struct ".toList ++ name)

end Loader

end RasterText
