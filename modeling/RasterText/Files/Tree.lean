import RasterText.Files.Access
import RasterText.Files.Name
set_option autoImplicit false

namespace RasterText

inductive FileNode where
  | file (bytes : Octets)
  | directory (entries : List (Text × FileNode))
  deriving Repr, Inhabited

namespace FileNode

def isDirectory : FileNode → Bool
  | directory _ => true
  | file _ => false

def at? : List Text → FileNode → Option FileNode
  | [], node => some node
  | name :: names, directory entries =>
    match entries.lookup name with
    | some node => at? names node
    | none => none
  | _ :: _, file _ => none

def setEntry (name : Text) (node : FileNode) :
    List (Text × FileNode) → List (Text × FileNode)
  | [] => [(name, node)]
  | e :: rest => if e.1 = name then (name, node) :: rest else e :: setEntry name node rest

/-- Puts a node at the end of a way. Directories that are missing come into being, and a file on
the way stops it. -/
def put : FileNode → List Text → FileNode → FileNode
  | _, [], new => new
  | directory entries, name :: names, new =>
    let old := (entries.lookup name).getD (directory [])
    directory (setEntry name (put old names new) entries)
  | file bytes, _ :: _, _ => file bytes

end FileNode

/-- A tree and the directory in it that relative paths start from. -/
structure FileTree where
  root : FileNode := .directory []
  working : List Text := []

def nameLimit : Nat := 255

def pathLimit : Nat := 4096

namespace FileTree

/-- Follows names from the directory whose own names, the last one first, are `position`. The way
back from the root leads to the root. -/
def walk (t : FileTree) (position : List Text) : List Text → Except Fault (List Text)
  | [] => .ok position
  | name :: names =>
    match t.root.at? position.reverse with
    | none => .error .notFound
    | some (.file _) => .error .notADirectory
    | some (.directory entries) =>
      if name = ['.'] then t.walk position names
      else if name = ['.', '.'] then t.walk position.tail names
      else if nameLimit < Text.byteSize name then .error .nameTooLong
      else if (entries.lookup name).isSome then t.walk (name :: position) names
      else .error .notFound

def namesOf (path : Text) : List Text := (splitOn '/' path).filter fun n => !(n == [])

def startOf (t : FileTree) : Text → List Text
  | '/' :: _ => []
  | _ => t.working.reverse

def checkPath (path : Text) : Except Fault Unit :=
  if '\x00' ∈ path then .error .nulInPath
  else if path = [] then .error .notFound
  else if pathLimit ≤ Text.byteSize path then .error .nameTooLong
  else .ok ()

def endsInSlash (path : Text) : Bool := path.getLast? == some '/'

def read (t : FileTree) (path : Text) : Except Fault Octets := do
  checkPath path
  let position ← t.walk (t.startOf path) (namesOf path)
  match t.root.at? position.reverse with
  | some (.file bytes) => if endsInSlash path then .error .notADirectory else .ok bytes
  | some (.directory _) => .error .isADirectory
  | none => .error .notFound

/-- Creates a file or replaces what it holds. The directory of a new file has to be there. -/
def write (t : FileTree) (path : Text) (bytes : Octets) : Except Fault FileTree := do
  checkPath path
  let names := namesOf path
  let parent ← t.walk (t.startOf path) names.dropLast
  match t.root.at? parent.reverse with
  | some (.directory entries) =>
    match names.getLast? with
    | none => .error .isADirectory
    | some name =>
      if endsInSlash path ∨ name = ['.'] ∨ name = ['.', '.'] then .error .isADirectory
      else if nameLimit < Text.byteSize name then .error .nameTooLong
      else if ((entries.lookup name).map FileNode.isDirectory).getD false then .error .isADirectory
      else .ok { t with root := t.root.put (parent.reverse ++ [name]) (.file bytes) }
  | some (.file _) => .error .notADirectory
  | none => .error .notFound

end FileTree

instance : FileAccess (StateM FileTree) where
  read path := do return (← get).read path
  write path bytes := do
    match (← get).write path bytes with
    | .ok t =>
      set t
      return .ok ()
    | .error fault => return .error fault

end RasterText
