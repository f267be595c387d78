import RasterText.Tags
import RasterText.Preset.Basic
set_option autoImplicit false

/-!
The tags that describe a preset in a document. The settings that only a monochrome conversion
reads are described as not used by the other conversions.
-/

namespace RasterText

def yesNo (b : Bool) : Text := if b then "yes".toList else "no".toList

def notUsed : Text := "not used".toList

/-- The number of bits that are kept of each pixel. -/
def Matrix.bitsPerPixel (m : Matrix) : Nat :=
  (List.range 32).countP fun bit => m.used.toNat.testBit bit

def Preset.tagEntries (p : Preset) : List (Text × Text) :=
  let mono := p.prepare.conversion == .monochrome
  [("bytesOrder".toList, p.layout.byteOrder.label),
    ("dataBlockSize".toList, decimal p.layout.blockSize.bits),
    ("scanMain".toList, p.prepare.scanMain.label),
    ("scanSub".toList, p.prepare.scanSub.label),
    ("bands".toList, yesNo p.prepare.banded),
    ("bandWidth".toList, decimal p.prepare.bandWidth.toNat),
    ("inverse".toList, yesNo p.prepare.inverse),
    ("bom".toList, yesNo p.font.bom),
    ("encoding".toList, p.font.encoding),
    ("splitToRows".toList, yesNo p.layout.splitToRows),
    ("rle".toList, yesNo p.layout.runLength),
    ("preset".toList, p.name),
    ("convType".toList, p.prepare.conversion.name),
    ("monoType".toList, if mono then p.prepare.dither.name else notUsed),
    ("edge".toList, if mono then decimal p.prepare.edge.toNat else notUsed),
    ("bpp".toList, decimal p.matrix.bitsPerPixel)]

def Preset.tags (p : Preset) : Tags := .ofList p.tagEntries

end RasterText
