import RasterText.Raster.Basic
set_option autoImplicit false

namespace RasterText

inductive Channels where
  | gray
  | grayAlpha
  | rgb
  | rgba
  deriving DecidableEq, Repr

namespace Channels

def count : Channels → Nat
  | gray => 1
  | grayAlpha => 2
  | rgb => 3
  | rgba => 4

/-- The pixels that the samples make up; an incomplete pixel at the end is left out. -/
def pixels : Channels → List UInt8 → List Pixel
  | gray, v :: rest => ⟨v, v, v, 255⟩ :: gray.pixels rest
  | grayAlpha, v :: a :: rest => ⟨v, v, v, a⟩ :: grayAlpha.pixels rest
  | rgb, r :: g :: b :: rest => ⟨r, g, b, 255⟩ :: rgb.pixels rest
  | rgba, r :: g :: b :: a :: rest => ⟨r, g, b, a⟩ :: rgba.pixels rest
  | _, _ => []

end Channels

end RasterText
