import RasterText.Raster.Checksum
set_option autoImplicit false

namespace RasterText.Png

structure Chunk where
  type : Octets
  data : Octets
  /-- Whether the check that is written behind the data holds. -/
  intact : Bool

namespace Chunk

def headerType : Octets := [0x49, 0x48, 0x44, 0x52]

def paletteType : Octets := [0x50, 0x4c, 0x54, 0x45]

def keyType : Octets := [0x74, 0x52, 0x4e, 0x53]

def dataType : Octets := [0x49, 0x44, 0x41, 0x54]

def frameType : Octets := [0x66, 0x63, 0x54, 0x4c]

def frameDataType : Octets := [0x66, 0x64, 0x41, 0x54]

/-- A chunk that must not be passed over has a capital letter in front. -/
def isCritical (c : Chunk) : Bool := (c.type.headD 0) &&& 0x20 == 0

/-- Whether the chunk is damaged beyond use. A damaged chunk that may be passed over is no fault of
the file. -/
def isFatal (c : Chunk) : Bool := !c.intact && c.isCritical

end Chunk

def readChunkHead (bytes : Octets) : Option (Nat × Octets × Octets) := do
  let (length, bytes) ← Octets.split? 4 bytes
  let (type, bytes) ← Octets.split? 4 bytes
  return (Octets.bigEndian length, type, bytes)

def readChunk (bytes : Octets) : Option (Chunk × Octets) := do
  let (length, type, bytes) ← readChunkHead bytes
  let (data, bytes) ← Octets.split? length bytes
  let (check, bytes) ← Octets.split? 4 bytes
  return (⟨type, data, (checksum (type ++ data)).toNat == Octets.bigEndian check⟩, bytes)

end RasterText.Png
