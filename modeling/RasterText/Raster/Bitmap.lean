import RasterText.Octets
import RasterText.Raster.Basic
set_option autoImplicit false

/-!
Images in BMP files: 24 bits for each pixel without compression, behind a header of 40 bytes or one
of its longer versions. The rows stand from bottom to top, or from top to bottom if the height is
negative.
-/

namespace RasterText.Bitmap

def field (bytes : Octets) (offset count : Nat) : Nat :=
  Octets.littleEndian ((bytes.drop offset).take count)

/-- The size of the header of the file and the part of the second one that all versions have. -/
def headerSize : Nat := 54

def versionSizes : List Nat := [40, 52, 56, 108, 124]

/-- The greatest width, and the greatest height if the rows stand from bottom to top. -/
def sizeLimit : Nat := 0xffff

def signedField (bytes : Octets) (offset : Nat) : Int :=
  let n := field bytes offset 4
  if n < 0x80000000 then n else (n : Int) - 0x100000000

def rowPixels : Octets → List Pixel
  | blue :: green :: red :: rest => ⟨red, green, blue, 255⟩ :: rowPixels rest
  | _ => []

/-- Reads rows that are filled up to a multiple of four bytes. -/
def readRows (width : Nat) : Nat → Octets → Option (List (List Pixel))
  | 0, _ => some []
  | rows + 1, bytes => do
    let (row, bytes) ← Octets.split? ((3 * width + 3) / 4 * 4) bytes
    let more ← readRows width rows bytes
    return rowPixels (row.take (3 * width)) :: more

def decode? (bytes : Octets) : Option Raster := do
  let (head, _) ← Octets.split? headerSize bytes
  let width := signedField head 18
  let height := signedField head 22
  if head.take 2 ≠ [0x42, 0x4d] ∨ field head 14 4 ∉ versionSizes ∨ field head 26 2 ≠ 1
      ∨ field head 28 2 ≠ 24 ∨ field head 30 4 ≠ 0 ∨ width < 0
      ∨ sizeLimit < width ∨ sizeLimit < height ∨ height = -0x80000000 then none
  else
    let rows ← readRows width.toNat height.natAbs (bytes.drop (field head 10 4))
    let ordered := if height < 0 then rows else rows.reverse
    Raster.ofPixels? width.toNat height.natAbs ordered.flatten.toArray

end RasterText.Bitmap
