import RasterText.Octets
set_option autoImplicit false

namespace RasterText

def checksumShift (c : UInt32) : UInt32 :=
  if c &&& 1 = 1 then (c >>> 1) ^^^ 0xedb88320 else c >>> 1

def checksumByte (c : UInt32) (b : UInt8) : UInt32 :=
  checksumShift (checksumShift (checksumShift (checksumShift
    (checksumShift (checksumShift (checksumShift (checksumShift (c ^^^ b.toUInt32))))))))

def checksum (bytes : Octets) : UInt32 := bytes.foldl checksumByte 0xffffffff ^^^ 0xffffffff

end RasterText
