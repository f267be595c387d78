import RasterText.Preset.Section
import RasterText.Toml.Dates
set_option autoImplicit false

namespace RasterText

open Toml (Value Entries)

namespace Loader

def conversionNames : List (Text × Conversion) :=
  [("monochrome".toList, .monochrome), ("grayscale".toList, .grayscale), ("color".toList, .color)]

def ditherNames : List (Text × Dither) :=
  [("edge".toList, .edge), ("diffuse_dither".toList, .diffuse), ("ordered_dither".toList, .ordered)]

def scanNames : List (Text × ScanDirection) :=
  [("top_to_bottom".toList, .topToBottom), ("bottom_to_top".toList, .bottomToTop),
    ("left_to_right".toList, .leftToRight), ("right_to_left".toList, .rightToLeft)]

def lineNames : List (Text × LineDirection) :=
  [("forward".toList, .forward), ("backward".toList, .backward)]

def byteOrderNames : List (Text × ByteOrder) :=
  [("little_endian".toList, .littleEndian), ("big_endian".toList, .bigEndian)]

def preparationFields (l : Loader) : List (Field Preparation) :=
  [⟨"conv_type".toList, fun v p => do
      return { p with conversion := ← l.readName conversionNames v }⟩,
    ⟨"mono_type".toList, fun v p => do return { p with dither := ← l.readName ditherNames v }⟩,
    ⟨"edge".toList, fun v p => do return { p with edge := UInt8.ofNat (← l.readUnsigned 8 v) }⟩,
    ⟨"scan_main".toList, fun v p => do return { p with scanMain := ← l.readName scanNames v }⟩,
    ⟨"scan_sub".toList, fun v p => do return { p with scanSub := ← l.readName lineNames v }⟩,
    ⟨"inverse".toList, fun v p => do return { p with inverse := ← l.readBool v }⟩,
    ⟨"band_scanning".toList, fun v p => do return { p with banded := ← l.readBool v }⟩,
    ⟨"band_width".toList, fun v p => do return { p with bandWidth := ← l.readWord v }⟩]

/-- An operation whose mask may still be missing. -/
structure OperationDraft where
  mask : Option UInt32 := none
  shift : Nat := 0
  left : Bool := false

def operationFields (l : Loader) : List (Field OperationDraft) :=
  [⟨"mask".toList, fun v d => do return { d with mask := some (← l.readWord v) }⟩,
    ⟨"shift".toList, fun v d => do return { d with shift := ← l.readUnsigned 32 v }⟩,
    ⟨"left".toList, fun v d => do return { d with left := ← l.readBool v }⟩]

def operationName : Text := "MatrixOperation".toList

def readOperation (l : Loader) (v : Value) : Reading Operation := do
  match l.plain v with
  | .array [] | .tables [] =>
    .fail (.wrongLength 0 ("struct ".toList ++ operationName ++ " with 3 elements".toList))
  | _ =>
    let draft ← l.readSection operationName l.operationFields {} v
    match draft.mask with
    | some mask => return ⟨mask, draft.shift, draft.left⟩
    | none => .fail (.missing "mask".toList)

def readOperations (l : Loader) (v : Value) : Reading (List Operation) :=
  match l.plain v with
  | .array elements | .tables elements => elements.mapM l.readOperation
  | w => wrongType w "a sequence".toList

def matrixFields (l : Loader) : List (Field Matrix) :=
  [⟨"mask_used".toList, fun v m => do return { m with used := ← l.readWord v }⟩,
    ⟨"mask_and".toList, fun v m => do return { m with andMask := ← l.readWord v }⟩,
    ⟨"mask_or".toList, fun v m => do return { m with orMask := ← l.readWord v }⟩,
    ⟨"operations".toList, fun v m => do return { m with operations := ← l.readOperations v }⟩]

def layoutFields (l : Loader) : List (Field WordLayout) :=
  [⟨"block_size".toList, fun v x => do return { x with blockSize := ← l.readBlockSize v }⟩,
    ⟨"bytes_order".toList, fun v x => do
      return { x with byteOrder := ← l.readName byteOrderNames v }⟩,
    ⟨"split_to_rows".toList, fun v x => do return { x with splitToRows := ← l.readBool v }⟩,
    ⟨"compression_rle".toList, fun v x => do return { x with runLength := ← l.readBool v }⟩]

def fontFields (l : Loader) : List (Field FontCoding) :=
  [⟨"bom".toList, fun v f => do return { f with bom := ← l.readBool v }⟩,
    ⟨"encoding".toList, fun v f => do return { f with encoding := ← l.readText v }⟩]

def templateFields (l : Loader) : List (Field TemplateFiles) :=
  [⟨"image".toList, fun v t => do return { t with image := some (← l.readPath v) }⟩,
    ⟨"font".toList, fun v t => do return { t with font := some (← l.readPath v) }⟩]

def presetFields (l : Loader) : List (Field Preset) :=
  [⟨"name".toList, fun v p => do return { p with name := ← l.readText v }⟩,
    ⟨"prepare".toList, fun v p => do
      return { p with
        prepare := ← l.readSection "PrepareOptions".toList l.preparationFields {} v }⟩,
    ⟨"matrix".toList, fun v p => do
      return { p with matrix := ← l.readSection "MatrixOptions".toList l.matrixFields {} v }⟩,
    ⟨"image".toList, fun v p => do
      return { p with layout := ← l.readSection "ImageOptions".toList l.layoutFields {} v }⟩,
    ⟨"font".toList, fun v p => do
      return { p with font := ← l.readSection "FontOptions".toList l.fontFields {} v }⟩,
    ⟨"templates".toList, fun v p => do
      return { p with
        templates := ← l.readSection "TemplateOptions".toList l.templateFields {} v }⟩]

def readPreset (l : Loader) (entries : Entries) : Reading Preset :=
  l.readEntries l.presetFields {} entries

end Loader

inductive DocumentError where
  | notToml
  | field (error : FieldError)
  deriving DecidableEq, Repr

def Preset.ofText (s : Text) : Except DocumentError Preset :=
  match Toml.parse s with
  | none => .error .notToml
  | some entries => (Loader.text.readPreset entries).mapError .field

/-- Reads a preset from the text of a file, in which tables may stand for dates. Without a name of
its own it is named `name`. -/
def Preset.ofFileText (name : Option Text) (s : Text) : Except DocumentError Preset :=
  match (Toml.parse s).bind Toml.withDates? with
  | none => .error .notToml
  | some entries => do
    let preset ← (Loader.file.readPreset entries).mapError .field
    match entries.lookup "name".toList, name with
    | none, some name => return { preset with name := name }
    | _, _ => return preset

end RasterText
