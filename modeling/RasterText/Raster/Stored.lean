import RasterText.Octets
set_option autoImplicit false

/-!
Streams of blocks that are stored without compression. A stream may break off anywhere, and the
check at its end is not looked at: what has been read by then counts.
-/

namespace RasterText.Png

inductive BlockCoding where
  | stored
  | compressed
  | reserved
  deriving DecidableEq, Repr

def BlockCoding.ofByte (b : UInt8) : BlockCoding :=
  if b &&& 6 = 0 then stored else if b &&& 6 = 6 then reserved else compressed

/-- The contents of stored blocks up to the last block, the end of the bytes or a block of another
coding. A reserved coding and a length that differs from its complement are faults. -/
def readBlocks (bytes : Octets) : Option Octets :=
  match bytes with
  | [] => some []
  | mode :: rest =>
    match BlockCoding.ofByte mode, rest with
    | .reserved, _ => none
    | .stored, low :: high :: notLow :: notHigh :: rest =>
      let size := Octets.littleEndian [low, high]
      if size + Octets.littleEndian [notLow, notHigh] ≠ 0xffff then none
      else if mode &&& 1 = 1 then some (rest.take size)
      else (readBlocks (rest.drop size)).map (rest.take size ++ ·)
    | _, _ => some []
termination_by bytes.length
decreasing_by
  simp only [List.length_cons, List.length_drop]
  omega

/-- Whether the two bytes in front of a stream announce one that can be read: deflated, with a
window of at most 32 KiB and without a dictionary. -/
def isStreamFormat (format : Octets) : Bool :=
  match format with
  | [method, flags] =>
    method &&& 0x0f == 8 && method < 0x80 && flags &&& 0x20 == 0 && Octets.bigEndian format % 31 == 0
  | _ => false

def readStream (bytes : Octets) : Option Octets :=
  if isStreamFormat (bytes.take 2) then readBlocks (bytes.drop 2) else none

end RasterText.Png
