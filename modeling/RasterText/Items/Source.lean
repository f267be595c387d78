import RasterText.Raster.Basic
import RasterText.Text.Basic
set_option autoImplicit false

namespace RasterText

structure ItemSource where
  keys : List Text
  image? : Text → Option Raster

def ItemSource.count (s : ItemSource) : Nat := s.keys.length

end RasterText
