import RasterText.Files.Fault
import RasterText.Text.Utf8
set_option autoImplicit false

namespace RasterText

class FileAccess (m : Type → Type) where
  read : Text → m (Except Fault Octets)
  write : Text → Octets → m (Except Fault Unit)

def readText {m : Type → Type} [Monad m] [FileAccess m] (path : Text) :
    m (Except Fault Text) := do
  match ← FileAccess.read path with
  | .error fault => return .error fault
  | .ok bytes =>
    match Text.ofUtf8? bytes with
    | some text => return .ok text
    | none => return .error .invalidText

end RasterText
