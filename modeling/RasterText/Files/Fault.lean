import RasterText.Text.Basic
set_option autoImplicit false

namespace RasterText

inductive Fault where
  | notFound
  | isADirectory
  | notADirectory
  | nameTooLong
  | nulInPath
  | invalidText
  /-- What only the system knows, in its own words. -/
  | other (message : Text)
  deriving DecidableEq, Repr

def Fault.message : Fault → Text
  | notFound => "No such file or directory (os error 2)".toList
  | isADirectory => "Is a directory (os error 21)".toList
  | notADirectory => "Not a directory (os error 20)".toList
  | nameTooLong => "File name too long (os error 36)".toList
  | nulInPath => "file name contained an unexpected NUL byte".toList
  | invalidText => "stream did not contain valid UTF-8".toList
  | other message => message

end RasterText
