import RasterText.Template.Substitution
import RasterText.Items.Source
import RasterText.Grid.Pipeline
import RasterText.Charset.Code
import RasterText.Files.Fault
set_option autoImplicit false

namespace RasterText

inductive RenderError where
  | parse (faults : List NestedBlock)
  | encoding (error : UnknownEncoding)
  | pipeline (error : PipelineError)
  | missingImage (key : Text)
  | templateRead (path : Text) (fault : Fault)
  deriving DecidableEq, Repr

def RenderError.message : RenderError → Text
  | parse faults =>
    "parse errors: ".toList ++ "; ".toList.intercalate (faults.map NestedBlock.message)
  | encoding error => error.message
  | pipeline error => error.message
  | missingImage key => "no image for item '".toList ++ key ++ ['\'']
  | templateRead path fault =>
    "error reading template file ".toList ++ path ++ ": ".toList ++ fault.message

def radixPrefix : Text := "0x".toList

def indentTag : Text := "imageDataIndent".toList

/-- The indentation of the rows of an image where the document gives none. -/
def defaultIndent : Text := "    ".toList

/-- The text that shows a key in a comment. An at sign could be read as a marker. -/
def charText (key : Text) : Text :=
  if '@' ∈ key then Text.replaceChar '@' "(a)".toList key else key.take 1

/-- What a document is made from, its template and its tags apart. -/
structure Renderer where
  items : ItemSource
  pipeline : Pipeline
  preset : Preset

namespace Renderer

def charCode (r : Renderer) : Text → Except RenderError Text
  | [] => .ok []
  | c :: _ => (characterCode c r.preset.font.encoding r.preset.font.bom).mapError .encoding

def itemTags (r : Renderer) (base : Tags) (key : Text) (last : Bool) :
    Except RenderError (List (Text × Text)) := do
  match r.items.image? key with
  | none => .error (.missingImage key)
  | some image =>
    let grid ← (r.pipeline.convert r.preset image).mapError .pipeline
    let literals := r.pipeline.format r.preset radixPrefix grid
    let indent := (base.get? indentTag).getD defaultIndent
    let code ← r.charCode key
    return [("imagesCount".toList, decimal r.items.count),
      ("width".toList, decimal image.width),
      ("height".toList, decimal image.height),
      ("blocksCount".toList, decimal grid.words.length),
      ("imageData".toList, Text.replaceChar '\n' ('\n' :: indent) literals),
      ("charCode".toList, code),
      ("comma".toList, if last then [] else [',']),
      ("charText".toList, charText key)]

/-- The copy of a body for one item, on a line of its own. -/
def expandItem (r : Renderer) (base : Tags) (body : List Node) (key : Text) (last : Bool) :
    Except RenderError Text := do
  let tags ← r.itemTags base key last
  let scope := tags.foldl (fun s e => s.set e.1 e.2) (Scope.mk base .empty)
  return '\n' :: substitute scope.get? body

def expandKeys (r : Renderer) (base : Tags) (body : List Node) :
    List Text → Except RenderError Text
  | [] => .ok []
  | key :: rest => do
    let copy ← r.expandItem base body key rest.isEmpty
    let copies ← r.expandKeys base body rest
    return copy ++ copies

mutual

def renderNode (r : Renderer) (base : Tags) : Node → Except RenderError Text
  | .text value _ => .ok value
  | .tag name _ => .ok (resolve base.get? name)
  | .strayEnd name _ => .ok (resolve base.get? (Token.endKeyword name))
  | .unclosed _ _ => .ok []
  | .block name body _ =>
    if name = imagesTable then r.expandKeys base body r.items.keys else r.render base body

def render (r : Renderer) (base : Tags) : List Node → Except RenderError Text
  | [] => .ok []
  | node :: rest => do
    let text ← r.renderNode base node
    let more ← r.render base rest
    return text ++ more

end

end Renderer

/-- The tags of a document whose template shows how the data of an image is indented. -/
def Tags.withIndent (tags : Tags) (source : Text) : Tags :=
  if tags.contains indentTag then tags
  else
    match imageDataIndent source with
    | some indent => tags.insert indentTag indent
    | none => tags

def renderTemplate (source : Text) (tags : Tags) (items : ItemSource) (preset : Preset) :
    Except RenderError Text := do
  let nodes ← (parse source).mapError .parse
  Renderer.render ⟨items, .standard, preset⟩ (tags.withIndent source) nodes

end RasterText
