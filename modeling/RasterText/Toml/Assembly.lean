import RasterText.Toml.Document
set_option autoImplicit false

/-!
The tables of a TOML document. A header may open a table once; a table that was only named on the
way to another one moves to the end when its own header comes.
-/

namespace RasterText.Toml

/-- Changes the table at a path, where an array of tables stands for its last element. Tables that
are missing on the way come into being. -/
def updateAt (change : Entries → Option Entries) : List Text → Entries → Option Entries
  | [], entries => change entries
  | k :: path, entries =>
    let further := updateAt change path
    match entries.lookup k with
    | none => (further []).map fun inner => entries ++ [(k, .table .implied inner)]
    | some (.table .inline _) => none
    | some (.table kind inner) =>
      (further inner).map fun inner => entries.replace k (.table kind inner)
    | some (.tables elements) =>
      (updateLast further elements).map fun elements => entries.replace k (.tables elements)
    | some _ => none

/-- Opens the table `name`, which must be new or named only on the way to another table. -/
def openTable (name : Text) (entries : Entries) : Option Entries :=
  match entries.lookup name with
  | none => some (entries ++ [(name, .table .header [])])
  | some (.table .implied inner) =>
    some (entries.filter (fun e => !(e.1 == name)) ++ [(name, .table .header inner)])
  | some _ => none

def addElement (name : Text) (entries : Entries) : Option Entries :=
  match entries.lookup name with
  | none => some (entries ++ [(name, .tables [.table .header []])])
  | some (.tables elements) =>
    some (entries.replace name (.tables (elements ++ [.table .header []])))
  | some _ => none

/-- A document under construction: its tables, and the path of the table that is open. -/
structure Assembly where
  root : Entries := []
  opened : List Text := []

def Assembly.step (a : Assembly) : Statement → Option Assembly
  | .table key => do
    return ⟨← updateAt (openTable key.last) key.path a.root, key.path ++ [key.last]⟩
  | .element key => do
    return ⟨← updateAt (addElement key.last) key.path a.root, key.path ++ [key.last]⟩
  | .pair key value => do
    return { a with root := ← updateAt (insertPair key.last value key.path) a.opened a.root }

def parse (s : Text) : Option Entries := do
  let statements ← statements? s
  let assembly ← statements.foldlM Assembly.step {}
  return assembly.root

end RasterText.Toml
