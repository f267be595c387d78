import RasterText.Text.Basic
set_option autoImplicit false

namespace RasterText

inductive Conversion where
  | monochrome
  | grayscale
  | color
  deriving DecidableEq, Repr

def Conversion.name : Conversion → Text
  | monochrome => "Monochrome".toList
  | grayscale => "Grayscale".toList
  | color => "Color".toList

inductive Dither where
  | edge
  | diffuse
  | ordered
  deriving DecidableEq, Repr

def Dither.name : Dither → Text
  | edge => "Edge".toList
  | diffuse => "Diffuse Dither".toList
  | ordered => "Ordered Dither".toList

inductive ScanDirection where
  | topToBottom
  | bottomToTop
  | leftToRight
  | rightToLeft
  deriving DecidableEq, Repr

namespace ScanDirection

def label : ScanDirection → Text
  | topToBottom => "top to bottom".toList
  | bottomToTop => "bottom to top".toList
  | leftToRight => "left to right".toList
  | rightToLeft => "right to left".toList

def isVertical : ScanDirection → Bool
  | leftToRight | rightToLeft => true
  | topToBottom | bottomToTop => false

/-- Whether lines are visited from the far edge back to the origin. -/
def isReversed : ScanDirection → Bool
  | bottomToTop | rightToLeft => true
  | topToBottom | leftToRight => false

end ScanDirection

inductive LineDirection where
  | forward
  | backward
  deriving DecidableEq, Repr

def LineDirection.label : LineDirection → Text
  | forward => "forward".toList
  | backward => "backward".toList

inductive ByteOrder where
  | littleEndian
  | bigEndian
  deriving DecidableEq, Repr

def ByteOrder.label : ByteOrder → Text
  | littleEndian => "little-endian".toList
  | bigEndian => "big-endian".toList

inductive BlockSize where
  | bits8
  | bits16
  | bits24
  | bits32
  deriving DecidableEq, Repr

namespace BlockSize

def index : BlockSize → Nat
  | bits8 => 0
  | bits16 => 1
  | bits24 => 2
  | bits32 => 3

def bytes (b : BlockSize) : Nat := b.index + 1

def bits (b : BlockSize) : Nat := 8 * b.bytes

def ofBits? : Nat → Option BlockSize
  | 8 => some bits8
  | 16 => some bits16
  | 24 => some bits24
  | 32 => some bits32
  | _ => none

def unsupportedMessage (n : Nat) : Text :=
  "unsupported block size ".toList ++ decimal n ++ ", expected 8, 16, 24 or 32".toList

end BlockSize

structure Preparation where
  conversion : Conversion := .monochrome
  dither : Dither := .edge
  edge : UInt8 := 128
  scanMain : ScanDirection := .topToBottom
  scanSub : LineDirection := .forward
  inverse : Bool := false
  banded : Bool := false
  bandWidth : UInt32 := 8
  deriving DecidableEq, Repr

/-- Keeps the bits of `mask` and moves them by `shift` places. -/
structure Operation where
  mask : UInt32
  shift : Nat := 0
  left : Bool := false
  deriving DecidableEq, Repr

structure Matrix where
  used : UInt32 := 0x1
  andMask : UInt32 := 0xffffffff
  orMask : UInt32 := 0
  operations : List Operation := [{ mask := 0x1 }]
  deriving DecidableEq, Repr

structure WordLayout where
  blockSize : BlockSize := .bits8
  byteOrder : ByteOrder := .littleEndian
  splitToRows : Bool := false
  runLength : Bool := false
  deriving DecidableEq, Repr

structure FontCoding where
  bom : Bool := false
  encoding : Text := "UTF-8".toList
  deriving DecidableEq, Repr

structure TemplateFiles where
  image : Option Text := none
  font : Option Text := none
  deriving DecidableEq, Repr

/-- A named set of conversion parameters. A preset splits its data into rows; a layout that is
given in full does so only on demand. -/
structure Preset where
  name : Text := "monochrome".toList
  prepare : Preparation := {}
  matrix : Matrix := {}
  layout : WordLayout := { splitToRows := true }
  font : FontCoding := {}
  templates : TemplateFiles := {}
  deriving DecidableEq, Repr

end RasterText
