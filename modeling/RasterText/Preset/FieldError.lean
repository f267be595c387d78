import RasterText.Text.Quoted
import RasterText.Number.Binary64
import RasterText.Preset.Basic
set_option autoImplicit false

namespace RasterText

/-- The kind of value that was found, with the value if it is a simple one. -/
inductive Found where
  | boolean (b : Bool)
  | integer (n : Int)
  | float (x : Binary64)
  | string (t : Text)
  | sequence
  | map
  deriving DecidableEq, Repr

def signedDecimal : Int → Text
  | .ofNat n => decimal n
  | .negSucc n => '-' :: decimal (n + 1)

def backquoted (t : Text) : Text := ['\x60'] ++ t ++ ['\x60']

def Found.text : Found → Text
  | boolean b => "boolean ".toList ++ backquoted (if b then "true".toList else "false".toList)
  | integer n => "integer ".toList ++ backquoted (signedDecimal n)
  | float x => "floating point ".toList ++ backquoted x.text
  | string t => "string ".toList ++ quoted t
  | sequence => "sequence".toList
  | map => "map".toList

inductive FieldFault where
  | wrongType (found : Found) (expected : Text)
  | outOfRange (n : Int) (expected : Text)
  | wrongLength (n : Nat) (expected : Text)
  | unsupportedBlockSize (bits : Nat)
  | missing (field : Text)
  | unknownName (given : Text) (known : List Text)
  | notAName
  /-- As `notAName`, where only names are asked for. -/
  | notOnlyAName
  | noEntry
  | manyEntries
  /-- A name in a table stands with a value that is not empty. -/
  | filledArray
  | filledTable
  | notATable (kind : Text)
  deriving DecidableEq, Repr

def alternatives : List Text → Text
  | [a] => backquoted a
  | [a, b] => backquoted a ++ " or ".toList ++ backquoted b
  | names => "one of ".toList ++ ", ".toList.intercalate (names.map backquoted)

def FieldFault.message : FieldFault → Text
  | wrongType found expected =>
    "invalid type: ".toList ++ found.text ++ ", expected ".toList ++ expected
  | outOfRange n expected =>
    "invalid value: ".toList ++ (Found.integer n).text ++ ", expected ".toList ++ expected
  | wrongLength n expected =>
    "invalid length ".toList ++ decimal n ++ ", expected ".toList ++ expected
  | unsupportedBlockSize bits => BlockSize.unsupportedMessage bits
  | missing field => "missing field ".toList ++ backquoted field
  | unknownName given known =>
    "unknown variant ".toList ++ backquoted given ++ ", expected ".toList ++ alternatives known
  | notAName => "wanted string or table".toList
  | notOnlyAName => "invalid type: unit variant, expected string only".toList
  | noEntry => "wanted exactly 1 element, found 0 elements".toList
  | manyEntries => "wanted exactly 1 element, more than 1 element".toList
  | filledArray => "expected empty array".toList
  | filledTable => "expected empty table".toList
  | notATable kind => "expected table, found ".toList ++ kind

/-- What is wrong, and the keys that lead there. -/
structure FieldError where
  path : List Text
  fault : FieldFault
  deriving DecidableEq, Repr

def FieldError.message (e : FieldError) : Text :=
  let place :=
    if e.path = [] then []
    else "in ".toList ++ backquoted (['.'].intercalate e.path) ++ ['\n']
  e.fault.message ++ ['\n'] ++ place

end RasterText
