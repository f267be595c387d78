import RasterText.Preset.Builtin
import RasterText.Preset.Reading
import RasterText.Files.Access
import RasterText.Files.Name
set_option autoImplicit false

namespace RasterText

inductive PresetError where
  | unreadable (fault : Fault)
  | unknown (name : Text)
  | document (error : DocumentError)
  deriving DecidableEq, Repr

def PresetError.message : PresetError → Text
  | unreadable fault => "Failed to read preset file: ".toList ++ fault.message
  | unknown name => "unknown built-in preset '".toList ++ name ++ ['\'']
  | document .notToml => "Failed to parse preset TOML: not a TOML document\n".toList
  | document (.field error) => "Failed to parse preset TOML: ".toList ++ error.message

namespace Preset

def builtin (name : Text) : Except PresetError Preset :=
  match builtin? name with
  | some preset => .ok preset
  | none => .error (.unknown name)

variable {m : Type → Type} [Monad m] [FileAccess m]

/-- Reads a preset from a file. A preset without a name is named after the file. -/
def ofFile (path : Text) : m (Except PresetError Preset) := do
  match ← readText path with
  | .error fault => return .error (.unreadable fault)
  | .ok text => return (ofFileText (stemOf? path) text).mapError .document

/-- The built-in preset with this name, or else the preset in the file at this path. -/
def find (nameOrPath : Text) : m (Except PresetError Preset) :=
  match builtin? nameOrPath with
  | some preset => return .ok preset
  | none => ofFile nameOrPath

end Preset

end RasterText
