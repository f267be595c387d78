import RasterText.Items.Key
import RasterText.Items.Collection
import RasterText.Files.Access
set_option autoImplicit false

namespace RasterText

/-- Opens the image at a path, given what reading the file gives: the image, or a message. -/
abbrev ImageReader := Text → Except Fault Octets → Except Text Raster

inductive LoadError where
  | noKey (path : Text)
  | image (path reason : Text)
  deriving DecidableEq, Repr

def LoadError.message : LoadError → Text
  | noKey path => "cannot derive an item key from ".toList ++ path
  | image path reason => "failed to load image ".toList ++ path ++ ": ".toList ++ reason

def keyOfFile? (path : Text) : Option Text := keyOfPath? (Text.utf8 path)

variable {m : Type → Type} [Monad m] [FileAccess m]

def readImage (reader : ImageReader) (path : Text) : m (Except LoadError (Text × Raster)) := do
  match keyOfFile? path with
  | none => return .error (.noKey path)
  | some key =>
    match reader path (← FileAccess.read path) with
    | .error reason => return .error (.image path reason)
    | .ok image => return .ok (key, image)

/-- Reads the images at all paths into `c`, up to the first that fails. -/
def Collection.load (reader : ImageReader) (c : Collection) :
    List Text → m (Except LoadError Collection)
  | [] => return .ok c
  | path :: paths => do
    match ← readImage reader path with
    | .error e => return .error e
    | .ok (key, image) => (c.insert key image).load reader paths

end RasterText
