import RasterText.Raster.Basic
import RasterText.Preset.Basic
set_option autoImplicit false

/-!
Colour reduction. A pixel is made black or white by a fixed threshold, by a threshold that varies
over a square of four by four pixels, or by error diffusion; or it is made gray. Alpha is never
touched.
-/

namespace RasterText

namespace Pixel

/-- The brightness after ITU-R BT.601, in thousandths of each colour. -/
def luma (p : Pixel) : Nat := (299 * p.red.toNat + 587 * p.green.toNat + 114 * p.blue.toNat) / 1000

def withLevel (level : UInt8) (p : Pixel) : Pixel :=
  { p with red := level, green := level, blue := level }

def inverse (p : Pixel) : Pixel :=
  { p with red := 255 - p.red, green := 255 - p.green, blue := 255 - p.blue }

end Pixel

def blackOrWhite (threshold level : Nat) : UInt8 := if threshold ≤ level then 255 else 0

def bayerThreshold (x y : Nat) : Nat :=
  let row : List Nat :=
    match y % 4 with
    | 0 => [0, 8, 2, 10]
    | 1 => [12, 4, 14, 6]
    | 2 => [3, 11, 1, 9]
    | _ => [15, 7, 13, 5]
  16 * row.getD (x % 4) 0 + 8

/-- The share of an error that a neighbour of weight `weight` out of sixteen takes over, with the
fraction cut off. -/
def errorShare (weight error : Int) : Int := (weight * error).tdiv 16

/-- Visits the pixel at index `i` of an image of `width` by `height`: makes its level black or
white, and hands the error on to the neighbours that are still to come. -/
def diffuseAt (width height : Nat) (threshold : Int) (levels : Array Int) (i : Nat) : Array Int :=
  let old := levels.getD i 0
  let new := if threshold ≤ old then 255 else 0
  let x := i % width
  let last := x + 1 = width
  let below := i / width + 1 < height
  let give (here : Prop) [Decidable here] (j : Nat) (weight : Int) (a : Array Int) : Array Int :=
    if here then a.modify j (· + errorShare weight (old - new)) else a
  levels.setIfInBounds i new
    |> give (¬ last) (i + 1) 7
    |> give (0 < x ∧ below) (i + width - 1) 3
    |> give below (i + width) 5
    |> give (¬ last ∧ below) (i + width + 1) 1

/-- The levels after error diffusion over all pixels in reading order. -/
def diffuse (width height : Nat) (threshold : Int) (levels : Array Int) : Array Int :=
  (List.range (width * height)).foldl (diffuseAt width height threshold) levels

def clampLevel (n : Int) : UInt8 := UInt8.ofNat (min n.toNat 255)

namespace Raster

def reduceEdge (edge : UInt8) (r : Raster) : Raster :=
  r.map fun p => p.withLevel (blackOrWhite edge.toNat p.luma)

def reduceOrdered (r : Raster) : Raster :=
  r.mapIdx fun i p =>
    p.withLevel (blackOrWhite (bayerThreshold (i % r.width) (i / r.width)) p.luma)

def reduceDiffuse (edge : UInt8) (r : Raster) : Raster :=
  let levels := diffuse r.width r.height edge.toNat (r.pixels.map fun p => (p.luma : Int))
  r.mapIdx fun i p => p.withLevel (clampLevel (levels.getD i 0))

def reduceGray (r : Raster) : Raster := r.map fun p => p.withLevel (UInt8.ofNat p.luma)

/-- Reduces the colours, then complements them if asked to. -/
def prepare (p : Preparation) (r : Raster) : Raster :=
  let reduced :=
    match p.conversion with
    | .monochrome =>
      match p.dither with
      | .edge => r.reduceEdge p.edge
      | .diffuse => r.reduceDiffuse p.edge
      | .ordered => r.reduceOrdered
    | .grayscale => r.reduceGray
    | .color => r
  if p.inverse then reduced.map Pixel.inverse else reduced

end Raster

end RasterText
