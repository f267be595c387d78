set_option autoImplicit false

namespace RasterText

abbrev Octets := List UInt8

namespace Octets

/-- The first `count` bytes and the rest, if there are as many. -/
def split? (count : Nat) (bytes : Octets) : Option (Octets × Octets) :=
  let front := bytes.take count
  if front.length = count then some (front, bytes.drop count) else none

def littleEndian : Octets → Nat
  | [] => 0
  | b :: rest => b.toNat + 256 * littleEndian rest

def bigEndian (bytes : Octets) : Nat := bytes.foldl (fun acc b => 256 * acc + b.toNat) 0

end Octets

end RasterText
