import RasterText.Proofs.Files.Reading
import RasterText.Proofs.Preset.Demand
set_option autoImplicit false

namespace RasterText

open Toml (Value Entries)

namespace Demand

def preparationDemands : List (Text × Demand) :=
  [("conv_type".toList, nothing), ("mono_type".toList, nothing), ("edge".toList, nothing),
    ("scan_main".toList, nothing), ("scan_sub".toList, nothing), ("inverse".toList, nothing),
    ("band_scanning".toList, nothing), ("band_width".toList, nothing)]

def operationDemands : List (Text × Demand) :=
  [("mask".toList, nothing), ("shift".toList, nothing), ("left".toList, nothing)]

/-- Of an operation. A date of the document is none for either loader, since it has no mask. -/
def inOperation : Demand := fun l v =>
  match v with
  | .datetime _ => True
  | v => inSection operationDemands l v

def matrixDemands : List (Text × Demand) :=
  [("mask_used".toList, nothing), ("mask_and".toList, nothing), ("mask_or".toList, nothing),
    ("operations".toList, inEach inOperation)]

def layoutDemands : List (Text × Demand) :=
  [("block_size".toList, nothing), ("bytes_order".toList, nothing),
    ("split_to_rows".toList, nothing), ("compression_rle".toList, nothing)]

def fontDemands : List (Text × Demand) := [("bom".toList, nothing), ("encoding".toList, noDate)]

def templateDemands : List (Text × Demand) := [("image".toList, noDate), ("font".toList, noDate)]

def presetDemands : List (Text × Demand) :=
  [("name".toList, noDate), ("prepare".toList, inSection preparationDemands),
    ("matrix".toList, inSection matrixDemands), ("image".toList, inSection layoutDemands),
    ("font".toList, inSection fontDemands), ("templates".toList, inSection templateDemands)]

end Demand

open Demand

namespace Loader

theorem alike_preparationFields :
    FieldsAlike preparationDemands text.preparationFields file.preparationFields :=
  .put (governs_readName rfl) <| .put (governs_readName rfl) <|
    .put (governs_readUnsigned 8) <| .put (governs_readName rfl) <|
    .put (governs_readName rfl) <| .put governs_readBool <| .put governs_readBool <|
    .put governs_readWord .nil

theorem alike_operationFields :
    FieldsAlike operationDemands text.operationFields file.operationFields :=
  .put governs_readWord <| .put (governs_readUnsigned 32) <| .put governs_readBool .nil

def finishOperation (draft : OperationDraft) : Reading Operation :=
  match draft.mask with
  | some mask => return ⟨mask, draft.shift, draft.left⟩
  | none => .fail (.missing "mask".toList)

theorem readOperation_eq_ok_iff {l : Loader} {v : Value} {a : Operation} :
    l.readOperation v = .ok a ↔
      (l.readSection operationName l.operationFields {} v >>= finishOperation) = .ok a := by
  unfold readOperation
  split
  case h_3 => rfl
  all_goals
    next h =>
      simp [readSection, h, readElements, checkLength, bind_eq_ok, finishOperation, Reading.fail,
        pure, Except.pure]

theorem governs_readOperation : inOperation.Governs readOperation := by
  have hsection : (inSection operationDemands).Governs readOperation :=
    ((governs_readSection alike_operationFields (independent_operationFields _)
      operationName {}).andThen finishOperation).congr fun _ _ _ => readOperation_eq_ok_iff.symm
  intro v w hv hw
  cases v with
  | datetime t =>
    cases hw
    refine Alike.of_iff fun a => ?_
    simp [readOperation_eq_ok_iff, bind_eq_ok, readSection, plain, finishOperation, wrongType,
      Reading.fail]
  | _ => exact hsection _ w hv hw

theorem governs_readOperations : (inEach inOperation).Governs readOperations := by
  intro v w hv hw
  cases Value.dated hw with
  | array each => exact alike_mapM governs_readOperation each (Toml.distinct_array.1 hv)
  | tables each => exact alike_mapM governs_readOperation each (Toml.distinct_tables.1 hv)
  | date hd t =>
    refine (Alike.of_iff fun a => ?_).congr ?_ ?_ <;> cases hd <;>
      simp [readOperations, plain, inEach, wrongType, Reading.fail]
  | _ =>
    refine (Alike.of_iff fun a => ?_).congr ?_ ?_ <;>
      simp [readOperations, plain, inEach, wrongType, Reading.fail]

theorem alike_matrixFields : FieldsAlike matrixDemands text.matrixFields file.matrixFields :=
  .put governs_readWord <| .put governs_readWord <| .put governs_readWord <|
    .put governs_readOperations .nil

theorem alike_layoutFields : FieldsAlike layoutDemands text.layoutFields file.layoutFields :=
  .put governs_readBlockSize <| .put (governs_readName rfl) <| .put governs_readBool <|
    .put governs_readBool .nil

theorem alike_fontFields : FieldsAlike fontDemands text.fontFields file.fontFields :=
  .put governs_readBool <| .put governs_readText .nil

theorem alike_templateFields :
    FieldsAlike templateDemands text.templateFields file.templateFields :=
  .put governs_readPath <| .put governs_readPath .nil

theorem alike_presetFields : FieldsAlike presetDemands text.presetFields file.presetFields :=
  .put governs_readText <|
    .put (governs_readSection alike_preparationFields (independent_preparationFields _) _ _) <|
    .put (governs_readSection alike_matrixFields (independent_matrixFields _) _ _) <|
    .put (governs_readSection alike_layoutFields (independent_layoutFields _) _ _) <|
    .put (governs_readSection alike_fontFields (independent_fontFields _) _ _) <|
    .put (governs_readSection alike_templateFields (independent_templateFields _) _ _) .nil

theorem alike_readPreset {entries dated : Entries} (hv : entries.Distinct)
    (hw : Toml.withDates? entries = some dated) :
    Alike (InEntries presetDemands .text entries) (InEntries presetDemands .file entries)
      (text.readPreset entries) (file.readPreset dated) :=
  alike_readEntries alike_presetFields (independent_presetFields _) hv hw {}

end Loader

/-- Names a preset after its file, unless the document has a name for it. -/
def Preset.namedAfter (path : Text) (entries : Entries) (p : Preset) : Preset :=
  { p with
    name := if (entries.lookup "name".toList).isSome then p.name else (stemOf? path).getD p.name }

namespace FileTree

variable (t : FileTree) {path s : Text} (h : t.ask (readText path) = .ok s)

include h

theorem ask_ofFile : t.ask (Preset.ofFile path) =
    (Preset.ofFileText (stemOf? path) s).mapError .document := by
  rw [Preset.ofFile, (readsOnly_readText path).ask_bind, h]
  rfl

theorem ask_ofFile_eq_ok_iff {q : Preset} {entries : Entries} (hp : Toml.parse s = some entries) :
    t.ask (Preset.ofFile path) = .ok q ↔ ∃ dated, Toml.withDates? entries = some dated ∧
      ∃ p, Loader.file.readPreset dated = .ok p ∧ p.namedAfter path entries = q := by
  rw [ask_ofFile t h, mapError_eq_ok, Preset.ofFileText, hp, Option.bind_some]
  cases hw : Toml.withDates? entries with
  | none => simp
  | some dated =>
    have hk : (entries.lookup "name".toList).isSome = (dated.lookup "name".toList).isSome := by
      rw [Bool.eq_iff_iff, Toml.isSome_lookup_iff, Toml.isSome_lookup_iff, Toml.keys_withDates? hw]
    simp only [bind_eq_ok, mapError_eq_ok, Option.some.injEq, exists_eq_left']
    refine exists_congr fun p => and_congr_right fun _ => ?_
    rw [Preset.namedAfter, hk]
    cases dated.lookup "name".toList <;> cases stemOf? path <;> simp [pure, Except.pure]

end FileTree

theorem ofText_eq_ok_iff {s : Text} {p : Preset} {entries : Entries}
    (hp : Toml.parse s = some entries) :
    Preset.ofText s = .ok p ↔ Loader.text.readPreset entries = .ok p := by
  rw [Preset.ofText, hp]
  exact mapError_eq_ok

/-- A file and its text give the same preset, up to the name of a document without one, wherever
both give one. Whether they do is the same wherever the document meets the demands of both. -/
theorem presetLoaders_agree (t : FileTree) {path s : Text} (h : t.ask (readText path) = .ok s) :
    (Toml.parse s = none →
      (∀ p, Preset.ofText s ≠ .ok p) ∧ ∀ q, t.ask (Preset.ofFile path) ≠ .ok q) ∧
    ∀ entries, Toml.parse s = some entries →
      (∀ p q, Preset.ofText s = .ok p → t.ask (Preset.ofFile path) = .ok q →
        q = p.namedAfter path entries) ∧
      (∀ q, t.ask (Preset.ofFile path) = .ok q →
        (Toml.withDates? entries).isSome ∧ InEntries presetDemands .file entries) ∧
      ((Toml.withDates? entries).isSome →
        (∀ p, Preset.ofText s = .ok p → InEntries presetDemands .text entries) ∧
        (InEntries presetDemands .text entries → InEntries presetDemands .file entries →
          ((∃ p, Preset.ofText s = .ok p) ↔ ∃ q, t.ask (Preset.ofFile path) = .ok q))) := by
  refine ⟨fun hn => ?_, fun entries hp => ?_⟩
  · rw [t.ask_ofFile h, Preset.ofText, Preset.ofFileText, hn]
    simp [Except.mapError]
  · have hd := Toml.distinct_parse hp
    simp only [ofText_eq_ok_iff hp, t.ask_ofFile_eq_ok_iff h hp]
    refine ⟨?_, ?_, fun hw => ?_⟩
    · rintro p _ htext ⟨dated, hw, q, hfile, rfl⟩
      rw [(Loader.alike_readPreset hd hw).eq_of_ok htext hfile]
    · rintro _ ⟨dated, hw, q, hfile, rfl⟩
      exact ⟨Option.isSome_of_eq_some hw, (Loader.alike_readPreset hd hw).file q hfile⟩
    · obtain ⟨dated, hw⟩ := Option.isSome_iff_exists.1 hw
      have ha := Loader.alike_readPreset hd hw
      refine ⟨ha.text, fun ht hf => ?_⟩
      constructor
      · rintro ⟨p, htext⟩
        exact ⟨_, dated, hw, p, (ha.agree ht hf p).1 htext, rfl⟩
      · rintro ⟨_, dated', hw', p, hfile, rfl⟩
        cases hw.symm.trans hw'
        exact ⟨p, (ha.agree ht hf p).2 hfile⟩

def FileTree.single (name s : Text) : FileTree where
  root := .directory [(name, .file (Text.utf8 s))]

def oledPath : Text := "oled.toml".toList

def oledText : Text := "[image]\nblock_size = 32\n".toList

def oledEntries : Entries := [("image".toList, .table .header [("block_size".toList, .integer 32)])]

theorem presetLoaders_agree_oled :
    let t := FileTree.single oledPath oledText
    t.ask (readText oledPath) = .ok oledText ∧
      ∃ p, Preset.ofText oledText = .ok p ∧ p.layout.blockSize = .bits32 ∧
        t.ask (Preset.ofFile oledPath) = .ok { p with name := "oled".toList } := by
  intro t
  have hr : t.ask (readText oledPath) = .ok oledText := by decide +kernel
  have hp : Toml.parse oledText = some oledEntries := by with_unfolding_all rfl
  have hs : Preset.ofText oledText = .ok { layout := { blockSize := .bits32 } } := by
    decide +kernel
  have hw : (Toml.withDates? oledEntries).isSome := by decide +kernel
  have hd : ∀ l, InEntries presetDemands l oledEntries := by
    intro l e he d hd
    cases List.mem_singleton.1 he
    cases hd
    refine (if_neg (by decide)).mpr fun e he d hd => ?_
    cases List.mem_singleton.1 he
    cases hd
    trivial
  obtain ⟨hsame, -, hiff⟩ := (presetLoaders_agree t hr).2 _ hp
  obtain ⟨q, hq⟩ := ((hiff hw).2 (hd .text) (hd .file)).1 ⟨_, hs⟩
  have hstem : stemOf? oledPath = some "oled".toList := by decide +kernel
  refine ⟨hr, _, hs, rfl, ?_⟩
  rw [hq, hsame _ q hs hq, Preset.namedAfter, hstem]
  rfl

/-- Only one loader takes a date as a name, a date as a section, a section with an element too many
and a table with the key of a date but no date. -/
theorem presetLoaders_differ :
    let path := "p.toml".toList
    let taken (s : Text) (byFile byText : Bool) : Prop :=
      (FileTree.single path s).ask (readText path) = .ok s ∧
        ((FileTree.single path s).ask (Preset.ofFile path)).isOk = byFile ∧
        (Preset.ofText s).isOk = byText
    taken "name = 1979-05-27\n".toList true false ∧
      taken "prepare = 1979-05-27\n".toList false true ∧
      taken "font = [true, 'UTF-8', 1]\n".toList false true ∧
      taken "x = \x7b'$__toml_private_datetime' = 'x'\x7d\n".toList false true := by
  decide +kernel

end RasterText
