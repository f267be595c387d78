import RasterText.Text.Hexadecimal
import RasterText.Text.Utf8
import RasterText.Files.Name
set_option autoImplicit false

namespace RasterText

/-- A hexadecimal numeral that may have a plus sign in front. -/
def readCode : Text → Option Nat
  | '+' :: digits => readHex digits
  | digits => readHex digits

def codeDigits? : Text → Option Text
  | 'U' :: '+' :: digits => some digits
  | 'u' :: '+' :: digits => some digits
  | '0' :: 'x' :: digits => some digits
  | _ => none

def namedCharacter? (name : Text) : Option Char :=
  match (codeDigits? name).bind readCode with
  | some n => if n.isValidChar then some (Char.ofNat n) else none
  | none => none

/-- The key of a file by its name without the extension. -/
def keyOfName (name : Text) : Text :=
  match namedCharacter? name with
  | some c => [c]
  | none => name

/-- The key of an image file by the bytes of its path; a name that is no text gives none. -/
def keyOfPath? (path : Octets) : Option Text :=
  (lastName? 0x2e 0x2f path).bind fun name =>
    (Text.ofUtf8? (splitExtension 0x2e name).1).map keyOfName

end RasterText
