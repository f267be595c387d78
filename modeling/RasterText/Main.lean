import RasterText.CommandLine.Program
import RasterText.Raster.PlainFile
set_option autoImplicit false

namespace RasterText

def Fault.ofNumber (number : Nat) (details : String) : Fault :=
  match if number < 0x80000000 then number else 0x100000000 - number with
  | 2 => .notFound
  | 20 => .notADirectory
  | 21 => .isADirectory
  | 36 => .nameTooLong
  | n => .other (details.toList ++ " (os error ".toList ++ decimal n ++ [')'])

def Fault.ofSystem : IO.Error → Fault
  | .noFileOrDirectory .. => .notFound
  | .inappropriateType _ number details => .ofNumber number.toNat details
  | .invalidArgument _ number details => .ofNumber number.toNat details
  | .permissionDenied _ number details => .ofNumber number.toNat details
  | .resourceExhausted _ number details => .ofNumber number.toNat details
  | .alreadyExists _ number details => .ofNumber number.toNat details
  | .noSuchThing _ number details => .ofNumber number.toNat details
  | error => .other error.toString.toList

def withPath {α : Type} (path : Text) (action : String → IO α) : IO (Except Fault α) :=
  if '\x00' ∈ path then pure (.error .nulInPath)
  else do
    try return .ok (← action (String.ofList path))
    catch error => return .error (.ofSystem error)

instance : FileAccess IO where
  read path := withPath path fun name => do
    return (← IO.FS.readBinFile name).toList
  write path bytes := withPath path fun name =>
    IO.FS.writeBinFile name ⟨bytes.toArray⟩

end RasterText

open RasterText in
def main (arguments : List String) : IO UInt32 := do
  let outcome ← runProgram (m := IO) plainReader (arguments.map String.toList)
  (← IO.getStdout).putStr (String.ofList outcome.output)
  (← IO.getStderr).putStr (String.ofList outcome.errors)
  return UInt32.ofNat outcome.status
