import RasterText.Template.Builtin
import RasterText.Files.Access
import RasterText.Tags
set_option autoImplicit false

namespace RasterText

/-- A template and where it is from: the path of its file, or the name of a built-in template. -/
structure TemplateBody where
  text : Text
  origin : Text
  deriving DecidableEq, Repr

def TemplateBody.builtin (kind : DocumentKind) : TemplateBody :=
  ⟨kind.builtinTemplate, kind.builtinOrigin⟩

/-- Reads a template. Without a path, and for a path that leads nowhere, there is the built-in
one. -/
def loadTemplate {m : Type → Type} [Monad m] [FileAccess m] (path? : Option Text)
    (kind : DocumentKind) : m (Except Fault TemplateBody) := do
  match path? with
  | none => return .ok (.builtin kind)
  | some path =>
    match ← readText path with
    | .ok text => return .ok ⟨text, path⟩
    | .error .notFound => return .ok (.builtin kind)
    | .error fault => return .error fault

/-- A name in which everything but ASCII letters and digits gives way to underscores. -/
def identifierOf (name : Text) : Text := name.map fun c => if c.isAlphanum then c else '_'

def documentTags (name : Text) : Tags :=
  (Tags.empty.insert "documentName".toList name).insert "documentName_ws".toList
    (identifierOf name)

end RasterText
