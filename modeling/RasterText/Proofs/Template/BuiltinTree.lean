import Mathlib
import RasterText.Template.Builtin
import RasterText.Proofs.Template.Outline
set_option autoImplicit false

namespace RasterText

/-- Text and tags show something by themselves; the other nodes are ends of blocks. -/
def Node.isPlain : Node → Bool
  | .text _ _ | .tag _ _ => true
  | _ => false

def plainText (value : String) : Node := .text value.toList ⟨0, 0⟩

def tagNamed (name : String) : Node := .tag name.toList ⟨0, 0⟩

def imageBody : List Node :=
  [plainText "static const uint", tagNamed "dataBlockSize", plainText "_t image_data_",
    tagNamed "documentName_ws", plainText "[", tagNamed "blocksCount",
    plainText "] = \x7b\n    ", tagNamed "imageData", plainText "\n\x7d;\nconst tImage ",
    tagNamed "documentName_ws", plainText " = \x7b image_data_", tagNamed "documentName_ws",
    plainText ",\n    ", tagNamed "width", plainText ", ", tagNamed "height", plainText ", ",
    tagNamed "dataBlockSize", plainText " \x7d;"]

def glyphBody : List Node :=
  [plainText "static const uint", tagNamed "dataBlockSize", plainText "_t image_data_",
    tagNamed "documentName_ws", plainText "_0x", tagNamed "charCode", plainText "[",
    tagNamed "blocksCount", plainText "] = \x7b\n    ", tagNamed "imageData",
    plainText "\n\x7d;\nstatic const tImage ", tagNamed "documentName_ws", plainText "_0x",
    tagNamed "charCode", plainText " = \x7b image_data_", tagNamed "documentName_ws",
    plainText "_0x", tagNamed "charCode", plainText ",\n    ", tagNamed "width", plainText ", ",
    tagNamed "height", plainText ", ", tagNamed "dataBlockSize", plainText " \x7d;"]

def rowBody : List Node :=
  [plainText "\x7b0x", tagNamed "charCode", plainText ", &", tagNamed "documentName_ws",
    plainText "_0x", tagNamed "charCode", plainText "\x7d", tagNamed "comma",
    plainText " // '", tagNamed "charText", plainText "'"]

theorem textOfLines_cons (line : Text) (lines : List String) :
    textOfLines (String.ofList line :: lines) = line ++ '\n' :: textOfLines lines := by
  simp [textOfLines]

namespace DocumentKind

def itemBody : DocumentKind → List Node
  | image => imageBody
  | font => glyphBody

def tableOpening : List Node :=
  [plainText "\n\nstatic const tChar ", tagNamed "documentName_ws", plainText "_array[] = \x7b"]

def fontEnding : List Node :=
  [plainText "\n\x7d;\n\nconst tFont ", tagNamed "documentName_ws", plainText " = \x7b ",
    tagNamed "imagesCount", plainText ", ", tagNamed "documentName_ws",
    plainText "_array \x7d;\n"]

def closingTree : DocumentKind → List Node
  | image => [plainText "\n"]
  | font => tableOpening ++ .block imagesTable rowBody ⟨0, 0⟩ :: fontEnding

def openingTree (kind : DocumentKind) : List Node :=
  (outline kind.builtinTemplate).takeWhile Node.isPlain

set_option maxRecDepth 10000 in
theorem parseLevel_builtin (kind : DocumentKind) :
    ((parseLevel [] (lex kind.builtinTemplate)).2,
        (bareNodes (parseLevel [] (lex kind.builtinTemplate)).1).dropWhile Node.isPlain) =
      ([], .block imagesTable kind.itemBody ⟨0, 0⟩ :: kind.closingTree) := by
  cases kind with
  | image =>
    rw [builtinTemplate, imageTemplateLines]
    repeat rw [textOfLines_cons]
    cbv
  | font =>
    rw [builtinTemplate, fontTemplateLines]
    repeat rw [textOfLines_cons]
    cbv

theorem outline_builtin (kind : DocumentKind) :
    outline kind.builtinTemplate =
      kind.openingTree ++ .block imagesTable kind.itemBody ⟨0, 0⟩ :: kind.closingTree := by
  have h := congrArg Prod.snd kind.parseLevel_builtin
  simp only at h
  rw [← h]
  exact List.takeWhile_append_dropWhile.symm

theorem parse_builtin (kind : DocumentKind) :
    parse kind.builtinTemplate = .ok (parseLevel [] (lex kind.builtinTemplate)).1 := by
  have h := congrArg Prod.fst kind.parseLevel_builtin
  simp only at h
  unfold parse
  split
  · next nodes hp => rw [hp]
  · next nodes fault faults hp =>
    rw [hp] at h
    cases h

theorem isPlain_of_mem_openingTree {kind : DocumentKind} {node : Node}
    (h : node ∈ kind.openingTree) : node.isPlain = true :=
  List.mem_takeWhile_imp h

end DocumentKind

end RasterText
