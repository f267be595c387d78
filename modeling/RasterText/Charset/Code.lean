import RasterText.Octets
import RasterText.Text.Hexadecimal
import RasterText.Charset.Encoder
set_option autoImplicit false

/-!
The code of a character as a hexadecimal numeral: its bytes as one number, the first one highest.
The last unit of UTF-16 and UTF-32 is put the other way round, so that a character in little-endian
order reads as its code point.
-/

namespace RasterText

structure UnknownEncoding where
  name : Text
  deriving DecidableEq, Repr

def UnknownEncoding.message (e : UnknownEncoding) : Text :=
  "no codec found for encoding '".toList ++ e.name ++ ['\'']

def codeLimit : Nat := 8

def reverseTail (count : Nat) (bytes : Octets) : Octets :=
  bytes.take (bytes.length - count) ++ (bytes.drop (bytes.length - count)).reverse

/-- The code of a character in a character set. With `bom` there is room for a byte order mark,
whether the character set has one or not; without it only the last unit is shown. -/
def Charset.code (s : Charset) (bom : Bool) (c : Char) : Text :=
  let bytes := (s.encode c).take codeLimit
  let unit (size : Nat) : Text :=
    let natural := reverseTail size bytes
    if bom then hexPadded (4 * size) (Octets.bigEndian natural)
    else hexPadded (2 * size) (Octets.bigEndian (natural.drop (natural.length - size)))
  match s with
  | utf16 _ _ => unit 2
  | utf32 _ _ => unit 4
  | _ => hexPadded (2 * bytes.length) (Octets.bigEndian bytes)

def characterCode (c : Char) (label : Text) (bom : Bool) : Except UnknownEncoding Text :=
  match Charset.ofLabel? label with
  | some s => .ok (s.code bom c)
  | none => .error ⟨label⟩

end RasterText
