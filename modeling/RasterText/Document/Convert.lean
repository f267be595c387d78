import RasterText.Document.Render
import RasterText.Document.Template
import RasterText.Preset.Description
set_option autoImplicit false

namespace RasterText

structure ConvertConfig where
  preset : Preset := {}
  kind : DocumentKind := .image
  /-- A template that comes before the one of the preset. -/
  template : Option Text := none
  tags : Tags := .empty

namespace ConvertConfig

def withTag (c : ConvertConfig) (name value : Text) : ConvertConfig :=
  { c with tags := c.tags.insert name value }

def withDocumentName (c : ConvertConfig) (name : Text) : ConvertConfig :=
  { c with tags := c.tags.merge (documentTags name) }

def templatePath (c : ConvertConfig) : Option Text :=
  c.template.or
    (match c.kind with
    | .image => c.preset.templates.image
    | .font => c.preset.templates.font)

def documentTags (c : ConvertConfig) (body : TemplateBody) (count : Nat) : Tags :=
  (c.tags.insert "templateFile".toList body.origin)
    |>.insert indentTag ((imageDataIndent body.text).getD defaultIndent)
    |>.merge c.preset.tags
    |>.insert "imagesCount".toList (decimal count)

def renderBody (c : ConvertConfig) (items : ItemSource) (pipeline : Pipeline)
    (body : TemplateBody) : Except RenderError Text := do
  let nodes ← (parse body.text).mapError .parse
  Renderer.render ⟨items, pipeline, c.preset⟩ (c.documentTags body items.count) nodes

end ConvertConfig

variable {m : Type → Type} [Monad m] [FileAccess m]

def convertWith (pipeline : Pipeline) (items : ItemSource) (c : ConvertConfig) :
    m (Except RenderError Text) := do
  match ← loadTemplate c.templatePath c.kind with
  | .error fault => return .error (.templateRead (c.templatePath.getD []) fault)
  | .ok body => return c.renderBody items pipeline body

/-- Makes a document with the standard pipeline. -/
def convert (items : ItemSource) (c : ConvertConfig) : m (Except RenderError Text) :=
  convertWith .standard items c

end RasterText
