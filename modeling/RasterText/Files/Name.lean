import RasterText.Text.Basic
set_option autoImplicit false

/-!
The parts of the last name in a path. A path is read as characters or as bytes, so the separators
are parameters.
-/

namespace RasterText

def splitOn {α : Type} [DecidableEq α] (separator : α) : List α → List (List α)
  | [] => [[]]
  | a :: rest =>
    if a = separator then [] :: splitOn separator rest
    else
      match splitOn separator rest with
      | [] => [[a]]
      | piece :: pieces => (a :: piece) :: pieces

/-- The names in a path. Empty names are passed over, and so is the name of a directory itself
unless the path begins with it. -/
def pathNames {α : Type} [DecidableEq α] (dot slash : α) (path : List α) : List (List α) :=
  match splitOn slash path with
  | [] => []
  | first :: rest =>
    (if first = [] then [] else [first]) ++ rest.filter fun n => !(n == []) && !(n == [dot])

/-- The last name, unless it stands for a directory itself or for the one above. -/
def lastName? {α : Type} [DecidableEq α] (dot slash : α) (path : List α) : Option (List α) :=
  match (pathNames dot slash path).getLast? with
  | some name => if name = [dot] ∨ name = [dot, dot] then none else some name
  | none => none

/-- Cuts a name at its last dot, if something stands before the dot. -/
def splitExtension {α : Type} [DecidableEq α] (dot : α) (name : List α) :
    List α × Option (List α) :=
  let after := (name.reverse.takeWhile fun a => !(a == dot)).reverse
  let before := (name.take (name.length - after.length)).dropLast
  if after.length = name.length ∨ before = [] then (name, none) else (before, some after)

def stemOf? (path : Text) : Option Text :=
  (lastName? '.' '/' path).map fun name => (splitExtension '.' name).1

def extensionOf? (path : Text) : Option Text :=
  (lastName? '.' '/' path).bind fun name => (splitExtension '.' name).2

end RasterText
