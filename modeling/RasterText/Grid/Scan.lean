import RasterText.Raster.Basic
import RasterText.Preset.Basic
import RasterText.Grid.Basic
set_option autoImplicit false

/-!
The words of an image in scan order. A scan line is a row or a column. With bands, every line is
cut into pieces of the band's width, and a band is scanned over all lines before the next one.
Places past the end of a line read as zero.
-/

namespace RasterText

/-- Alpha, red, green and blue, from the highest byte down. -/
def Pixel.word (p : Pixel) : UInt32 :=
  p.alpha.toUInt32 <<< 24 ||| p.red.toUInt32 <<< 16 ||| p.green.toUInt32 <<< 8 ||| p.blue.toUInt32

/-- The numbers below `n`, from the last one back if `reversed`. -/
def places (reversed : Bool) (n : Nat) : List Nat :=
  if reversed then (List.range n).reverse else List.range n

namespace Preparation

def lineCount (p : Preparation) (r : Raster) : Nat :=
  if p.scanMain.isVertical then r.width else r.height

def lineLength (p : Preparation) (r : Raster) : Nat :=
  if p.scanMain.isVertical then r.height else r.width

def pixelAt (p : Preparation) (r : Raster) (line pos : Nat) : Pixel :=
  if p.scanMain.isVertical then r.pixel line pos else r.pixel pos line

/-- The width of a band; without bands, that of a line. -/
def bandWidthFor (p : Preparation) (r : Raster) : Nat :=
  if p.banded ∧ 0 < p.bandWidth.toNat then p.bandWidth.toNat else p.lineLength r

/-- The words of one line inside a band that holds the places `band`. -/
def bandLine (p : Preparation) (r : Raster) (band : List Nat) (line : Nat) : List UInt32 :=
  band.map (fun pos => (p.pixelAt r line pos).word) ++
    List.replicate (p.bandWidthFor r - band.length) 0

end Preparation

def Raster.scanLines (p : Preparation) (r : Raster) : List (List UInt32) :=
  (cut (p.bandWidthFor r) (places (p.scanSub == .backward) (p.lineLength r))).flatMap fun band =>
    (places p.scanMain.isReversed (p.lineCount r)).map (p.bandLine r band)

def Raster.scan (p : Preparation) (r : Raster) : Grid where
  words := (r.scanLines p).flatten
  width := UInt32.ofNat (p.bandWidthFor r)
  height := UInt32.ofNat (r.scanLines p).length

end RasterText
