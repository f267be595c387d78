import Mathlib
import RasterText.Document.Convert
import RasterText.Proofs.Document.Failure
import RasterText.Proofs.Document.TextRendering
import RasterText.Proofs.Template.BuiltinTree
set_option autoImplicit false

namespace RasterText

/-- A constant of C. The bounds of an array stand behind its name. -/
structure Constant where
  isStatic : Bool
  type : Text
  name : Text
  bounds : Text := []
  value : Text

namespace Constant

def declaration (c : Constant) : Text :=
  (if c.isStatic then "static ".toList else []) ++ "const ".toList ++ c.type ++
    ' ' :: c.name ++ c.bounds ++ " = ".toList ++ c.value ++ [';']

def dataLead : Text := "image_data_".toList

def dataName (name : Text) : Text := dataLead ++ name

def imageData (name : Text) (lookup : Text → Option Text) : Constant where
  isStatic := true
  type := "uint".toList ++ resolve lookup "dataBlockSize".toList ++ "_t".toList
  name := dataName name
  bounds := '[' :: resolve lookup "blocksCount".toList ++ [']']
  value := "\x7b\n    ".toList ++ resolve lookup "imageData".toList ++ "\n\x7d".toList

def image (isStatic : Bool) (name : Text) (lookup : Text → Option Text) : Constant where
  isStatic := isStatic
  type := "tImage".toList
  name := name
  value := "\x7b ".toList ++ dataName name ++ ",\n    ".toList ++
    resolve lookup "width".toList ++ ", ".toList ++ resolve lookup "height".toList ++
    ", ".toList ++ resolve lookup "dataBlockSize".toList ++ " \x7d".toList

end Constant

def documentIdentifier (lookup : Text → Option Text) : Text :=
  resolve lookup "documentName_ws".toList

def glyphName (lookup : Text → Option Text) : Text :=
  documentIdentifier lookup ++ "_0x".toList ++ resolve lookup "charCode".toList

def glyphRow (lookup : Text → Option Text) : Text :=
  "\x7b0x".toList ++ resolve lookup "charCode".toList ++ ", &".toList ++ glyphName lookup ++
    '\x7d' :: resolve lookup "comma".toList ++ " // '".toList ++
    resolve lookup "charText".toList ++ ['\'']

def Constant.glyphTable (base : Text → Option Text) (scopes : List (Text → Option Text)) :
    Constant where
  isStatic := true
  type := "tChar".toList
  name := documentIdentifier base ++ "_array".toList
  bounds := "[]".toList
  value := '\x7b' :: scopes.flatMap (fun lookup => '\n' :: glyphRow lookup) ++ "\n\x7d".toList

def Constant.font (base : Text → Option Text) : Constant where
  isStatic := false
  type := "tFont".toList
  name := documentIdentifier base
  value := "\x7b ".toList ++ resolve base "imagesCount".toList ++ ", ".toList ++
    documentIdentifier base ++ "_array \x7d".toList

namespace DocumentKind

def itemConstants (kind : DocumentKind) (lookup : Text → Option Text) : List Constant :=
  match kind with
  | image =>
    [.imageData (documentIdentifier lookup) lookup, .image false (documentIdentifier lookup) lookup]
  | font => [.imageData (glyphName lookup) lookup, .image true (glyphName lookup) lookup]

def closingConstants (kind : DocumentKind) (base : Text → Option Text)
    (scopes : List (Text → Option Text)) : List Constant :=
  match kind with
  | image => []
  | font => [.glyphTable base scopes, .font base]

def constants (kind : DocumentKind) (base : Text → Option Text)
    (scopes : List (Text → Option Text)) : List Constant :=
  scopes.flatMap kind.itemConstants ++ kind.closingConstants base scopes

def document (kind : DocumentKind) (base : Text → Option Text)
    (scopes : List (Text → Option Text)) : Text :=
  substitute base kind.openingTree ++
    (scopes.flatMap kind.itemConstants).flatMap (fun c => '\n' :: c.declaration) ++
    '\n' :: (kind.closingConstants base scopes).flatMap (fun c => '\n' :: c.declaration ++ ['\n'])

theorem substitute_itemBody (kind : DocumentKind) (lookup : Text → Option Text) :
    '\n' :: substitute lookup kind.itemBody =
      (kind.itemConstants lookup).flatMap fun c => '\n' :: c.declaration := by
  cases kind with
  | image =>
    unfold itemBody itemConstants imageBody plainText tagNamed Constant.imageData Constant.image
      Constant.dataName Constant.dataLead documentIdentifier Constant.declaration
    repeat rw [String.toList_ofList]
    simp only [substitute, Node.substitute, List.flatMap_cons, List.flatMap_nil, List.append_assoc,
      List.cons_append, List.nil_append, List.append_nil, if_true, Bool.false_eq_true, if_false]
  | font =>
    unfold itemBody itemConstants glyphBody plainText tagNamed Constant.imageData Constant.image
      Constant.dataName Constant.dataLead glyphName documentIdentifier Constant.declaration
    repeat rw [String.toList_ofList]
    simp only [substitute, Node.substitute, List.flatMap_cons, List.flatMap_nil, List.append_assoc,
      List.cons_append, List.nil_append, List.append_nil, if_true]

end DocumentKind

theorem substitute_rowBody (lookup : Text → Option Text) :
    substitute lookup rowBody = glyphRow lookup := by
  unfold rowBody plainText tagNamed glyphRow glyphName documentIdentifier
  repeat rw [String.toList_ofList]
  simp only [substitute, Node.substitute, List.append_assoc, List.cons_append, List.nil_append,
    List.append_nil]

namespace Renderer

variable {r : Renderer} {base : Tags}

def itemScopes (r : Renderer) (base : Tags) :
    List Text → Except RenderError (List (Text → Option Text))
  | [] => .ok []
  | key :: rest => do
    let tags ← r.itemTags base key rest.isEmpty
    let scopes ← r.itemScopes base rest
    return (fun name => (tags.lookup name).or (base.get? name)) :: scopes

theorem expandKeys_eq (r : Renderer) (base : Tags) (body : List Node) (keys : List Text) :
    r.expandKeys base body keys =
      (List.flatMap fun lookup => '\n' :: substitute lookup body) <$> r.itemScopes base keys := by
  induction keys with
  | nil => rfl
  | cons key rest ih =>
    rw [expandKeys, expandItem_eq, ih, itemScopes]
    cases r.itemTags base key rest.isEmpty with
    | error e => rfl
    | ok tags => cases r.itemScopes base rest <;> rfl

/-- Where the copy for a key looks up its tags. -/
def ScopeFor (r : Renderer) (base : Tags) (key : Text) (lookup : Text → Option Text) : Prop :=
  ∃ last tags, r.itemTags base key last = .ok tags ∧
    lookup = fun name => (tags.lookup name).or (base.get? name)

theorem forall₂_scopeFor {keys : List Text} {scopes : List (Text → Option Text)}
    (h : r.itemScopes base keys = .ok scopes) : List.Forall₂ (r.ScopeFor base) keys scopes := by
  induction keys generalizing scopes with
  | nil =>
    cases h
    exact .nil
  | cons key rest ih =>
    rw [itemScopes, bind_eq_ok] at h
    obtain ⟨tags, ht, h⟩ := h
    rw [bind_eq_ok] at h
    obtain ⟨more, hm, h⟩ := h
    cases h
    exact .cons ⟨_, tags, ht, rfl⟩ (ih hm)

namespace ScopeFor

variable {key : Text} {lookup : Text → Option Text}

theorem charCode_eq (h : r.ScopeFor base key lookup) :
    r.charCode key = .ok (resolve lookup "charCode".toList) := by
  obtain ⟨last, tags, ht, rfl⟩ := h
  obtain ⟨image, grid, code, -, -, hc, rfl⟩ := itemTags_eq_ok ht
  exact hc

theorem documentIdentifier_eq (h : r.ScopeFor base key lookup) :
    documentIdentifier lookup = documentIdentifier base.get? := by
  obtain ⟨last, tags, ht, rfl⟩ := h
  have hn : tags.lookup "documentName_ws".toList = none := by
    obtain ⟨image, grid, code, -, -, -, rfl⟩ := itemTags_eq_ok ht
    rfl
  refine resolve_congr ?_
  rw [hn, Option.none_or]

end ScopeFor

theorem render_plain {nodes : List Node} (h : ∀ node ∈ nodes, node.isPlain = true)
    (rest : List Node) :
    r.render base (nodes ++ rest) =
      (substitute base.get? nodes ++ ·) <$> r.render base rest := by
  induction nodes with
  | nil => simp [substitute]
  | cons node nodes ih =>
    have hn : r.renderNode base node = .ok (node.substitute base.get?) := by
      have hp := h node List.mem_cons_self
      cases node with
      | text _ _ | tag _ _ => rw [renderNode, Node.substitute]
      | _ => cases hp
    rw [List.cons_append, render_cons_of_ok hn, ih fun n hm => h n (List.mem_cons_of_mem _ hm)]
    simp [substitute]

theorem render_imagesTable {keys : List Text} {scopes : List (Text → Option Text)}
    (hk : r.items.keys = keys) (h : r.itemScopes base keys = .ok scopes) (body rest : List Node) :
    r.render base (.block imagesTable body ⟨0, 0⟩ :: rest) =
      (scopes.flatMap (fun lookup => '\n' :: substitute lookup body) ++ ·) <$>
        r.render base rest := by
  refine render_cons_of_ok ?_ rest
  rw [renderNode, if_pos rfl, expandKeys_eq, hk, h]
  rfl

theorem substitute_fontClosing (base : Text → Option Text) (scopes : List (Text → Option Text)) :
    substitute base DocumentKind.tableOpening ++
        ((scopes.flatMap fun lookup => '\n' :: substitute lookup rowBody) ++
          substitute base DocumentKind.fontEnding) =
      '\n' :: (DocumentKind.font.closingConstants base scopes).flatMap fun c =>
        '\n' :: c.declaration ++ ['\n'] := by
  simp only [substitute_rowBody]
  unfold DocumentKind.tableOpening DocumentKind.fontEnding DocumentKind.closingConstants plainText
    tagNamed Constant.glyphTable Constant.font documentIdentifier Constant.declaration
  repeat rw [String.toList_ofList]
  simp only [substitute, Node.substitute, List.flatMap_cons, List.flatMap_nil, List.append_assoc,
    List.cons_append, List.nil_append, List.append_nil, if_true, Bool.false_eq_true, if_false]

theorem render_closingTree (kind : DocumentKind) {scopes : List (Text → Option Text)}
    (h : r.itemScopes base r.items.keys = .ok scopes) :
    r.render base kind.closingTree =
      .ok ('\n' :: (kind.closingConstants base.get? scopes).flatMap fun c =>
        '\n' :: c.declaration ++ ['\n']) := by
  cases kind with
  | image => rfl
  | font =>
    have ho : ∀ node ∈ DocumentKind.tableOpening, node.isPlain = true := by
      simp [DocumentKind.tableOpening, plainText, tagNamed, Node.isPlain]
    have he : ∀ node ∈ DocumentKind.fontEnding, node.isPlain = true := by
      simp [DocumentKind.fontEnding, plainText, tagNamed, Node.isPlain]
    have hr : r.render base DocumentKind.fontEnding =
        .ok (substitute base.get? DocumentKind.fontEnding) := by
      rw [← List.append_nil DocumentKind.fontEnding, render_plain he, render]
      simp [Functor.map, Except.map]
    rw [DocumentKind.closingTree, render_plain ho, render_imagesTable rfl h, hr,
      ← substitute_fontClosing]
    rfl

end Renderer

/-- The documents of the built-in templates, whatever the items are and however they are made. -/
theorem ConvertConfig.renderBody_builtin (c : ConvertConfig) (items : ItemSource)
    (pipeline : Pipeline) (kind : DocumentKind) :
    c.renderBody items pipeline (.builtin kind) =
      kind.document (c.documentTags (.builtin kind) items.count).get? <$>
        Renderer.itemScopes ⟨items, pipeline, c.preset⟩
          (c.documentTags (.builtin kind) items.count) items.keys := by
  let r : Renderer := ⟨items, pipeline, c.preset⟩
  let base := c.documentTags (.builtin kind) items.count
  have hrender : c.renderBody items pipeline (.builtin kind) =
      r.render base (outline kind.builtinTemplate) := by
    have hp : parse (TemplateBody.builtin kind).text = _ := kind.parse_builtin
    rw [renderBody, hp, outline, Renderer.render_bareNodes]
    rfl
  rw [hrender, kind.outline_builtin,
    Renderer.render_plain fun node => DocumentKind.isPlain_of_mem_openingTree]
  cases h : r.itemScopes base items.keys with
  | error e =>
    rw [Renderer.render, Renderer.renderNode, if_pos rfl, Renderer.expandKeys_eq, h]
    rfl
  | ok scopes =>
    rw [Renderer.render_imagesTable rfl h, Renderer.render_closingTree kind h]
    simp [DocumentKind.document, DocumentKind.substitute_itemBody, List.flatMap_assoc,
      Functor.map, Except.map, base]

theorem ConvertConfig.exists_scopes_of_renderBody {c : ConvertConfig} {items : ItemSource}
    {pipeline : Pipeline} {kind : DocumentKind} {text : Text}
    (h : c.renderBody items pipeline (.builtin kind) = .ok text) :
    ∃ scopes, text = kind.document (c.documentTags (.builtin kind) items.count).get? scopes ∧
      List.Forall₂ (Renderer.ScopeFor ⟨items, pipeline, c.preset⟩
        (c.documentTags (.builtin kind) items.count)) items.keys scopes := by
  rw [renderBody_builtin] at h
  cases hs : Renderer.itemScopes ⟨items, pipeline, c.preset⟩
      (c.documentTags (.builtin kind) items.count) items.keys with
  | error e =>
    rw [hs] at h
    cases h
  | ok scopes =>
    rw [hs] at h
    cases h
    exact ⟨scopes, rfl, Renderer.forall₂_scopeFor hs⟩

theorem ConvertConfig.errorOf_renderBody_builtin (c : ConvertConfig) {items : ItemSource}
    (hk : ∀ key ∈ items.keys, ∃ image, items.image? key = some image) (kind : DocumentKind) :
    errorOf (c.renderBody items .standard (.builtin kind)) = c.preset.tableFault? items.keys := by
  let r : Renderer := ⟨items, .standard, c.preset⟩
  have he := r.errorOf_expandKeys rfl (c.documentTags (.builtin kind) items.count) [] hk
  rw [Renderer.expandKeys_eq, errorOf_map] at he
  rw [renderBody_builtin, errorOf_map, he]

end RasterText
