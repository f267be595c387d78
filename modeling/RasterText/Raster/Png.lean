import RasterText.Raster.Preamble
import RasterText.Raster.Stored
set_option autoImplicit false

/-!
Images in PNG files: eight bits for each sample, rows from top to bottom, stored without
compression and without a filter. Of an animation, the image that stands first is taken.
-/

namespace RasterText.Png

def signature : Octets := [0x89, 0x50, 0x4e, 0x47, 0x0d, 0x0a, 0x1a, 0x0a]

/-- The data of the image: of this and the next chunks as long as their type is the same. Another
chunk has to come after them. -/
def readImage (bytes : Octets) : Option Octets := do
  let (_, type, _) ← readChunkHead bytes
  if type ≠ Chunk.dataType then return []
  let (chunk, rest) ← readChunk bytes
  if chunk.isFatal then none
  else if _h : rest.length < bytes.length then return chunk.data ++ (← readImage rest)
  else none
termination_by bytes.length

/-- The data of a frame, likewise. Each chunk begins with its number, the one after `number` for
the first. -/
def readFrame (number : Nat) (bytes : Octets) : Option Octets := do
  let (_, type, _) ← readChunkHead bytes
  if type ≠ Chunk.frameDataType then return []
  let (chunk, rest) ← readChunk bytes
  let (next, data) ← Octets.split? 4 chunk.data
  if Octets.bigEndian next ≠ number + 1 then none
  else if _h : rest.length < bytes.length then return data ++ (← readFrame (number + 1) rest)
  else none
termination_by bytes.length

/-- Reads the chunks up to the data of the first image, which is that of a frame if it comes after
a chunk that announces one. -/
def readData (p : Preamble) (bytes : Octets) : Option (Preamble × Octets) := do
  let (_, type, _) ← readChunkHead bytes
  if type = Chunk.dataType then return (p, ← readImage bytes)
  else if type = Chunk.frameDataType then return (p, ← readFrame (← p.lastNumber) bytes)
  else
    let (chunk, rest) ← readChunk bytes
    let p ← p.take? chunk
    if _h : rest.length < bytes.length then readData p rest else none
termination_by bytes.length

/-- The samples of rows that each begin with the mark for no filter. -/
def readRows (rowSize : Nat) : Nat → Octets → Option Octets
  | 0, _ => some []
  | rows + 1, bytes => do
    let (filter, bytes) ← Octets.split? 1 bytes
    let (row, bytes) ← Octets.split? rowSize bytes
    if filter ≠ [0] then none
    else
      let more ← readRows rowSize rows bytes
      return row ++ more

def hide (key : Option Pixel) (p : Pixel) : Pixel :=
  let hidden := { p with alpha := 0 }
  if key = some hidden then hidden else p

def decode? (bytes : Octets) : Option Raster := do
  let (start, rest) ← Octets.split? 8 bytes
  if start ≠ signature then none
  else
    let (first, rest) ← readChunk rest
    let header ← Header.ofChunk? first
    let (p, stream) ← readData (Preamble.ofHeader header) rest
    let data ← readStream stream
    let samples ← readRows (header.width * header.channels.count) header.height data
    let pixels := (header.channels.pixels samples).map (hide p.key)
    Raster.ofPixels? header.width header.height pixels.toArray

end RasterText.Png
