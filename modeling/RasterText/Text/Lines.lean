import RasterText.Text.Basic
set_option autoImplicit false

/-!
The lines of a text, each with the characters that end it, and the place of a character by line and
column. Lines, columns and offsets count characters from zero.
-/

namespace RasterText

/-- A line feed, a carriage return, a vertical tab, a form feed, and the line ends of Unicode. -/
def isLineEnd (c : Char) : Bool :=
  c ∈ ['\r', '\n', '\x0b', '\x0c', '\x85', '\u2028', '\u2029']

/-- The pieces of a text, each with its line end. A carriage return and a line feed are one end. -/
def splitLines : Text → List Text
  | [] => []
  | '\r' :: '\n' :: r => ['\r', '\n'] :: splitLines r
  | c :: r =>
    if isLineEnd c then [c] :: splitLines r
    else
      match splitLines r with
      | [] => [[c]]
      | line :: lines => (c :: line) :: lines

structure Line where
  number : Nat
  offset : Nat
  content : Text
  deriving DecidableEq, Repr

namespace Line

def stop (line : Line) : Nat := line.offset + line.content.length

def holds (line : Line) (offset : Nat) : Bool := line.offset ≤ offset && offset < line.stop

def ofPieces (number offset : Nat) : List Text → List Line
  | [] => []
  | piece :: rest =>
    ⟨number, offset, piece⟩ :: ofPieces (number + 1) (offset + piece.length) rest

/-- The lines of a text; the empty text has one. -/
def ofText (t : Text) : List Line := ofPieces 0 0 (if t = [] then [[]] else splitLines t)

/-- The line of an offset up to the end of the text. -/
def find? (lines : List Line) (offset : Nat) : Option Line :=
  match lines.getLast? with
  | some last =>
    if offset ≤ last.stop then (lines.filter fun line => line.offset ≤ offset).getLast? else none
  | none => none

end Line

end RasterText
