import RasterText.Report.Paint
set_option autoImplicit false

/-!
Labels on a text. A label on one line is underlined, and an arrow leads from the middle of the
underline to its message. A label that spans lines has a bar in the margin from its first line to
its last one, where the message stands.
-/

namespace RasterText

structure Label where
  start : Nat
  stop : Nat
  message : Text
  paint : Paint
  deriving DecidableEq, Repr

namespace Label

def holds (l : Label) (offset : Nat) : Bool := l.start ≤ offset && offset < l.stop

def length (l : Label) : Nat := l.stop - l.start

def last (l : Label) : Nat := max (l.stop - 1) l.start

end Label

/-- The place on a line where the arrow of a label begins. -/
structure Mark where
  column : Nat
  label : Label
  spanning : Bool
  /-- Whether the message of the label stands at this mark. -/
  speaks : Bool
  deriving DecidableEq, Repr

/-- A mark further to the left comes first, and in one column the label that starts later. -/
def Mark.before (a b : Mark) : Bool :=
  a.column < b.column || (a.column == b.column && b.label.start < a.label.start)

end RasterText
