import RasterText.Raster.Chunk
import RasterText.Raster.Samples
set_option autoImplicit false

/-!
What the chunks in front of the image data say. A chunk that is not needed and does not hold what
it should is passed over, except that one which announces the first frame of an animation has to
fit the image.
-/

namespace RasterText.Png

def channels? : UInt8 → Option Channels
  | 0 => some .gray
  | 2 => some .rgb
  | 4 => some .grayAlpha
  | 6 => some .rgba
  | _ => none

def sizeLimit : Nat := 0x7fffffff

structure Header where
  width : Nat
  height : Nat
  channels : Channels

/-- Reads the first chunk. Only eight bits for each sample and one pass are taken. -/
def Header.ofChunk? (c : Chunk) : Option Header := do
  if c.type ≠ Chunk.headerType ∨ ¬ c.intact then none
  else
    let (width, rest) ← Octets.split? 4 c.data
    let (height, rest) ← Octets.split? 4 rest
    match rest with
    | [8, colour, 0, 0, 0] =>
      let w := Octets.bigEndian width
      let h := Octets.bigEndian height
      if w = 0 ∨ h = 0 ∨ sizeLimit < w ∨ sizeLimit < h then none
      else return ⟨w, h, ← channels? colour⟩
    | _ => none

/-- The colour that is not drawn: the low bytes of samples of sixteen bits. Images with an alpha
channel have none. -/
def keyColour? (channels : Channels) (data : Octets) : Option Pixel :=
  match channels, data with
  | .gray, _ :: v :: _ => some ⟨v, v, v, 0⟩
  | .rgb, _ :: r :: _ :: g :: _ :: b :: _ => some ⟨r, g, b, 0⟩
  | _, _ => none

/-- The fields of four bytes and the last two bytes of a chunk that announces a frame. -/
structure FrameControl where
  number : Nat
  width : Nat
  height : Nat
  left : Nat
  top : Nat
  disposal : UInt8
  blending : UInt8

def FrameControl.ofData? (data : Octets) : Option FrameControl := do
  let (number, data) ← Octets.split? 4 data
  let (width, data) ← Octets.split? 4 data
  let (height, data) ← Octets.split? 4 data
  let (left, data) ← Octets.split? 4 data
  let (top, data) ← Octets.split? 4 data
  let (_, data) ← Octets.split? 4 data
  match data with
  | [disposal, blending] =>
    return ⟨Octets.bigEndian number, Octets.bigEndian width, Octets.bigEndian height,
      Octets.bigEndian left, Octets.bigEndian top, disposal, blending⟩
  | _ => none

def FrameControl.covers (f : FrameControl) (h : Header) : Bool :=
  f.width == h.width && f.height == h.height && f.left == 0 && f.top == 0

structure Preamble where
  header : Header
  hasPalette : Bool
  key : Option Pixel
  lastNumber : Option Nat

namespace Preamble

def ofHeader (h : Header) : Preamble := ⟨h, false, none, none⟩

/-- One palette of up to 256 colours is allowed, though it is not used. -/
def takePalette? (p : Preamble) (data : Octets) : Option Preamble :=
  if p.hasPalette ∨ data.length < 3 ∨ 768 < data.length then none
  else some { p with hasPalette := true }

def takeKey (p : Preamble) (data : Octets) : Preamble :=
  if p.key.isSome ∨ 256 < data.length then p
  else { p with key := keyColour? p.header.channels data }

def takeFrame? (p : Preamble) (data : Octets) : Option Preamble := do
  let f ← FrameControl.ofData? data
  if f.number ≠ (p.lastNumber.map (· + 1)).getD 0 ∨ 2 < f.disposal ∨ 1 < f.blending
      ∨ ¬ f.covers p.header then none
  else some { p with lastNumber := some f.number }

/-- Takes in a chunk. The header must not come again, the end must not come yet, and a critical
chunk of another type cannot be passed over. -/
def take? (p : Preamble) (c : Chunk) : Option Preamble :=
  if c.isFatal then none
  else if ¬ c.intact then some p
  else if c.type = Chunk.paletteType then p.takePalette? c.data
  else if c.type = Chunk.keyType then some (p.takeKey c.data)
  else if c.type = Chunk.frameType then p.takeFrame? c.data
  else if c.isCritical then none
  else some p

end Preamble

end RasterText.Png
