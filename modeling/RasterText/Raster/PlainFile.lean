import RasterText.Items.Loading
import RasterText.Raster.Bitmap
import RasterText.Raster.Png
set_option autoImplicit false

/-!
A reader of plain image files: PNG and BMP, as far as they are neither compressed nor filtered. It
goes by the extension of a file alone.
-/

namespace RasterText

def plainDecoder? (extension : Text) : Option (Octets → Option Raster) :=
  match String.ofList (extension.map Char.toLower) with
  | "png" | "apng" => some Png.decode?
  | "bmp" => some Bitmap.decode?
  | _ => none

def plainReader : ImageReader := fun path file =>
  match file, (extensionOf? path).bind plainDecoder? with
  | .error fault, _ => .error fault.message
  | .ok _, none => .error "The image format could not be determined".toList
  | .ok bytes, some decode =>
    match decode bytes with
    | some image => .ok image
    | none => .error "The image could not be decoded".toList

end RasterText
