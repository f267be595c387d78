import RasterText.Text.Hexadecimal
import RasterText.Preset.Basic
import RasterText.Grid.Basic
set_option autoImplicit false

/-!
Words as numeric literals: a prefix and hexadecimal digits, as many as the size of a word asks
for. Literals stand apart by a comma and a space, rows by a comma and a line feed.
-/

namespace RasterText

def literalSeparator : Text := ", ".toList

def rowSeparator : Text := ",\n".toList

def wordLiteral (block : BlockSize) (lead : Text) (w : UInt32) : Text :=
  lead ++ hexPadded (block.bits / 4) w.toNat

def rowLiteral (block : BlockSize) (lead : Text) (row : List UInt32) : Text :=
  literalSeparator.intercalate (row.map (wordLiteral block lead))

def Grid.textRows (split : Bool) (g : Grid) : List (List UInt32) :=
  if split ∧ 0 < g.width.toNat then cut g.width.toNat g.words else [g.words]

def Grid.format (block : BlockSize) (split : Bool) (lead : Text) (g : Grid) : Text :=
  rowSeparator.intercalate ((g.textRows split).map (rowLiteral block lead))

end RasterText
