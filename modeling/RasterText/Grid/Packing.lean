import RasterText.Preset.Basic
import RasterText.Grid.Basic
set_option autoImplicit false

/-!
Bit packing. The bits that a mask selects are taken from the highest one down and fill words from
their highest bit. Every line starts a new word, and the last word of a line is filled up with
zeros. The bytes of the packed words can then be reversed.
-/

namespace RasterText

/-- The places of the bits that `mask` selects, from the highest one down. -/
def selectedBits (mask : UInt32) : List Nat :=
  (List.range 32).reverse.filter fun bit => mask.toNat.testBit bit

def bitsAt (places : List Nat) (word : UInt32) : List Bool :=
  places.map fun bit => word.toNat.testBit bit

/-- The number whose binary digits are `bits`, the first one highest. -/
def ofBits (bits : List Bool) : Nat := bits.foldl (fun acc b => 2 * acc + b.toNat) 0

/-- The word of `size` bits that begins with `bits` and goes on with zeros. -/
def wordOfBits (size : Nat) (bits : List Bool) : UInt32 :=
  UInt32.ofNat (ofBits bits <<< (size - bits.length))

def packLine (mask : UInt32) (block : BlockSize) (line : List UInt32) : List UInt32 :=
  (cut block.bits (line.flatMap (bitsAt (selectedBits mask)))).map (wordOfBits block.bits)

def Grid.packedLines (mask : UInt32) (block : BlockSize) (g : Grid) : List (List UInt32) :=
  (cut g.width.toNat g.words).map (packLine mask block)

/-- Packs every line. The width is that of the last line. -/
def Grid.pack (mask : UInt32) (block : BlockSize) (g : Grid) : Grid where
  words := (g.packedLines mask block).flatten
  width := UInt32.ofNat (((g.packedLines mask block).getLast?.map List.length).getD 0)
  height := g.height

def swapBytes (w : UInt32) : UInt32 :=
  w <<< 24 ||| (w <<< 8 &&& (0xff0000 : UInt32)) ||| (w >>> 8 &&& (0xff00 : UInt32)) ||| w >>> 24

/-- Reverses the bytes of the low `block` bits. -/
def BlockSize.reverseBytes (block : BlockSize) (w : UInt32) : UInt32 :=
  swapBytes w >>> UInt32.ofNat (32 - block.bits)

def Grid.reorder (block : BlockSize) (order : ByteOrder) (g : Grid) : Grid :=
  match order, block with
  | .bigEndian, _ => g
  | .littleEndian, .bits8 => g
  | .littleEndian, _ => { g with words := g.words.map block.reverseBytes }

end RasterText
