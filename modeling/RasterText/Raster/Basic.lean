set_option autoImplicit false

namespace RasterText

structure Pixel where
  red : UInt8
  green : UInt8
  blue : UInt8
  alpha : UInt8
  deriving DecidableEq, Repr, Inhabited

structure Raster where
  width : Nat
  height : Nat
  pixels : Array Pixel
  shape : pixels.size = width * height ∧ width < UInt32.size ∧ height < UInt32.size
  deriving Repr, DecidableEq

namespace Raster

theorem size_eq (r : Raster) : r.pixels.size = r.width * r.height := r.shape.1

theorem width_lt (r : Raster) : r.width < UInt32.size := r.shape.2.1

theorem height_lt (r : Raster) : r.height < UInt32.size := r.shape.2.2

def ofPixels? (width height : Nat) (pixels : Array Pixel) : Option Raster :=
  if h : pixels.size = width * height ∧ width < UInt32.size ∧ height < UInt32.size then
    some ⟨width, height, pixels, h⟩
  else none

def pixel (r : Raster) (x y : Nat) : Pixel := r.pixels.getD (y * r.width + x) default

def map (f : Pixel → Pixel) (r : Raster) : Raster :=
  { r with pixels := r.pixels.map f, shape := by simpa using r.shape }

def mapIdx (f : Nat → Pixel → Pixel) (r : Raster) : Raster :=
  { r with pixels := r.pixels.mapIdx f, shape := by simpa using r.shape }

@[simp] theorem width_map (f : Pixel → Pixel) (r : Raster) : (r.map f).width = r.width := rfl

@[simp] theorem height_map (f : Pixel → Pixel) (r : Raster) : (r.map f).height = r.height := rfl

@[simp] theorem width_mapIdx (f : Nat → Pixel → Pixel) (r : Raster) :
    (r.mapIdx f).width = r.width := rfl

@[simp] theorem height_mapIdx (f : Nat → Pixel → Pixel) (r : Raster) :
    (r.mapIdx f).height = r.height := rfl

end Raster

end RasterText
