import Mathlib
import RasterText.Proofs.Document.Failure
import RasterText.Proofs.Document.TagValues
import RasterText.Proofs.Files.Name
import RasterText.Proofs.Files.Reading
import RasterText.Proofs.Files.Tree
set_option autoImplicit false

/-!
How a run of the program ends. It reads the preset, the images and the template, makes the document
and delivers it, and the first of these steps that fails is the one that is reported. Only delivery
to a file changes the tree.
-/

namespace RasterText

theorem foldl_withTag (tags : List (Text × Text)) (c : ConvertConfig) :
    tags.foldl (fun c e => c.withTag e.1 e.2) c = { c with tags := c.tags.insertMany tags } := by
  induction tags generalizing c with
  | nil => rfl
  | cons e rest ih => exact ih (c.withTag e.1 e.2)

namespace Settings

theorem config_eq (s : Settings) (preset : Preset) :
    s.config preset = ⟨preset, s.kind, s.template,
      (Tags.empty.merge (documentTags s.documentName)).insertMany s.tags⟩ :=
  foldl_withTag s.tags _

/-- What the settings and the stem of the first image say of a configuration. -/
structure Configures (s : Settings) (stem : Text) (preset : Preset) (c : ConvertConfig) : Prop where
  preset_eq : c.preset = preset
  kind_eq : c.kind = if s.font then .font else .image
  template_eq : c.template = s.template
  get?_tags (name : Text) : c.tags.get? name = (s.tags.reverse.lookup name).or
    (if name = "documentName_ws".toList then some (identifierOf (s.name.getD stem))
    else if name = "documentName".toList then some (s.name.getD stem)
    else none)

theorem configures_config {s : Settings} {first stem : Text} {rest : List Text}
    (hi : s.images = first :: rest) (hs : stemOf? first = some stem) (preset : Preset) :
    s.Configures stem preset (s.config preset) := by
  have hn : s.documentName = s.name.getD stem := by
    rw [documentName, hi, List.head?_cons, Option.bind_some, hs, Option.getD_some]
  rw [config_eq]
  refine ⟨rfl, rfl, rfl, fun name => ?_⟩
  simp only [Tags.get?_insertMany, Tags.get?_merge, hn, documentTags, Tags.get?_insert]
  -- no tag is there before that of the name
  have he : Tags.empty.get? name = none := rfl
  rw [he, Option.or_none]

structure Loads (s : Settings) (reader : ImageReader) (t : FileTree) (preset : Preset)
    (items : Collection) : Prop where
  preset_eq : t.ask (Preset.find s.presetName) = .ok preset
  items_eq : t.ask (Collection.empty.load reader s.images) = .ok items

def Makes (s : Settings) (reader : ImageReader) (t : FileTree) (document : Text) : Prop :=
  ∃ preset items, s.Loads reader t preset items ∧
    t.ask (convert items.source (s.config preset)) = .ok document

def Reads (s : Settings) (t : FileTree) (preset : Preset) (body : TemplateBody) : Prop :=
  t.ask (loadTemplate (s.config preset).templatePath (s.config preset).kind) = .ok body

/-- The ends of a run: what it leaves behind, and the tree after it. Every case has the steps before
the last one done. -/
inductive Ends (s : Settings) (reader : ImageReader) (t : FileTree) : Outcome → FileTree → Prop
  | noPreset {error : PresetError} (h : t.ask (Preset.find s.presetName) = .error error) :
      Ends s reader t (.failure (RunError.preset s.presetName error).message) t
  | noImage {preset : Preset} {before behind : List Text} {path : Text} {error : LoadError}
      (hp : t.ask (Preset.find s.presetName) = .ok preset)
      (hs : s.images = before ++ path :: behind)
      (hb : ∀ p ∈ before, ∃ entry, t.ask (readImage reader p) = .ok entry)
      (h : t.ask (readImage reader path) = .error error) :
      Ends s reader t (.failure (RunError.images error).message) t
  | noTemplate {preset : Preset} {items : Collection} {fault : Fault}
      (hl : s.Loads reader t preset items)
      (h : t.ask (loadTemplate (s.config preset).templatePath (s.config preset).kind) =
        .error fault) :
      Ends s reader t (.failure (RunError.document
        (.templateRead ((s.config preset).templatePath.getD []) fault)).message) t
  | notParsed {preset : Preset} {items : Collection} {body : TemplateBody}
      {faults : List NestedBlock} (hl : s.Loads reader t preset items) (hb : s.Reads t preset body)
      (h : parse body.text = .error faults) :
      Ends s reader t (.reported (faults.flatMap fun e => e.report body.text body.origin)) t
  | notRendered {preset : Preset} {items : Collection} {body : TemplateBody} {nodes : List Node}
      {error : RenderError} (hl : s.Loads reader t preset items) (hb : s.Reads t preset body)
      (hn : parse body.text = .ok nodes)
      (h : Renderer.render ⟨items.source, .standard, preset⟩
        ((s.config preset).documentTags body items.source.count) nodes = .error error) :
      Ends s reader t (.failure (RunError.document error).message) t
  | notWritten {document path : Text} {fault : Fault} (hm : s.Makes reader t document)
      (ho : s.output = some path) (h : t.write path (Text.utf8 document) = .error fault) :
      Ends s reader t (.failure (RunError.output path fault).message) t
  | printed {document : Text} (hm : s.Makes reader t document) (ho : s.output = none) :
      Ends s reader t (.success document) t
  | written {document path : Text} {after : FileTree} (hm : s.Makes reader t document)
      (ho : s.output = some path) (h : t.write path (Text.utf8 document) = .ok after) :
      Ends s reader t (.success []) after

end Settings

section Steps

variable {s : Settings} {reader : ImageReader} {t : FileTree} {preset : Preset}
  {items : Collection}

def Settings.EndsWith (s : Settings) (reader : ImageReader) (t : FileTree)
    (x : StateM FileTree Outcome) : Prop :=
  s.Ends reader t (x.run t).1 (x.run t).2

theorem Settings.EndsWith.bind {α : Type} {x : StateM FileTree α} {f : α → StateM FileTree Outcome}
    (hx : ReadsOnly x) (h : s.EndsWith reader t (f (t.ask x))) :
    s.EndsWith reader t (x >>= f) := by
  rw [EndsWith, hx.run_bind]
  exact h

theorem endsWith_deliver {document : Text} (hm : s.Makes reader t document) :
    s.EndsWith reader t (deliver s.output document) := by
  cases ho : s.output with
  | none => exact .printed hm ho
  | some path =>
    rw [Settings.EndsWith, deliver, StateT.run_bind, FileTree.run_write]
    cases hw : t.write path (Text.utf8 document) with
    | ok after => exact .written hm ho hw
    | error fault => exact .notWritten hm ho hw

theorem failedConversion_of_render (c : ConvertConfig) {base : Tags} {nodes : List Node}
    {error : RenderError}
    (h : Renderer.render ⟨items.source, .standard, preset⟩ base nodes = .error error) :
    (failedConversion c error : StateM FileTree Outcome) =
      pure (.failure (RunError.document error).message) := by
  have he := Renderer.errorOf_render (r := ⟨items.source, .standard, preset⟩) rfl
    (fun key => items.exists_image) base nodes
  rw [errorOf_eq_some.2 h] at he
  cases error with
  | parse faults =>
    simp only [Preset.tableFault?] at he
    split_ifs at he <;> cases he
  | _ => rfl

theorem endsWith_makeDocument (hl : s.Loads reader t preset items) :
    s.EndsWith reader t (s.makeDocument preset items) := by
  let c := s.config preset
  have hp : c.preset = preset := congrArg ConvertConfig.preset (s.config_eq preset)
  refine .bind (readsOnly_convert _ _) ?_
  cases hb : t.ask (loadTemplate c.templatePath c.kind) with
  | error fault =>
    rw [t.ask_convert, hb]
    exact Settings.Ends.noTemplate hl hb
  | ok body =>
    cases hn : parse body.text with
    | error faults =>
      rw [t.ask_convert_of_parse_eq_error items.source hb hn]
      refine .bind (readsOnly_reportFaults c faults) ?_
      rw [t.ask_reportFaults hb]
      exact Settings.Ends.notParsed hl hb hn
    | ok nodes =>
      have hc := t.ask_convert_of_parse_eq_ok items.source hb hn
      rw [hp] at hc
      cases hr : Renderer.render ⟨items.source, .standard, preset⟩
          (c.documentTags body items.source.count) nodes with
      | error error =>
        rw [hc, hr]
        change s.EndsWith reader t (failedConversion c error)
        rw [failedConversion_of_render c hr]
        exact Settings.Ends.notRendered hl hb hn hr
      | ok document =>
        rw [hr] at hc
        rw [hc]
        exact endsWith_deliver ⟨preset, items, hl, hc⟩

theorem endsWith_run (reader : ImageReader) (hl : s.listPresets = false) (t : FileTree) :
    s.EndsWith reader t (s.run reader) := by
  rw [Settings.run, if_neg (by simp [hl])]
  refine .bind (readsOnly_findPreset _) ?_
  cases hp : t.ask (Preset.find s.presetName) with
  | error error => exact Settings.Ends.noPreset hp
  | ok preset =>
    refine .bind (readsOnly_load _ _ _) ?_
    cases hi : t.ask (Collection.empty.load reader s.images) with
    | error error =>
      obtain ⟨before, path, behind, hs, hb, hf⟩ := t.exists_of_ask_load_eq_error hi
      exact Settings.Ends.noImage hp hs hb hf
    | ok items => exact endsWith_makeDocument ⟨hp, hi⟩

end Steps

namespace Settings.Ends

variable {s : Settings} {reader : ImageReader} {t after : FileTree} {outcome : Outcome}

theorem eq_of_status_ne_zero (h : s.Ends reader t outcome after) (hs : outcome.status ≠ 0) :
    outcome.output = [] ∧ after = t := by
  cases h with
  | printed | written => exact absurd rfl hs
  | _ => exact ⟨rfl, rfl⟩

theorem delivers_of_status_eq_zero (h : s.Ends reader t outcome after) (hs : outcome.status = 0) :
    ∃ document, s.Makes reader t document ∧
      (s.output = none ∧ outcome = .success document ∧ after = t ∨
        ∃ path, s.output = some path ∧ outcome = .success [] ∧
          t.Writes path (Text.utf8 document) after) := by
  cases h with
  | printed hm ho => exact ⟨_, hm, .inl ⟨ho, rfl, rfl⟩⟩
  | written hm ho hw => exact ⟨_, hm, .inr ⟨_, ho, rfl, FileTree.writes_of_write hw⟩⟩
  | _ => cases hs

end Settings.Ends

theorem exists_stem_of_load {reader : ImageReader} {t : FileTree} {c d : Collection} {first : Text}
    {rest : List Text} (h : t.ask (c.load reader (first :: rest)) = .ok d) :
    ∃ stem, stemOf? first = some stem := by
  obtain ⟨entries, he, -⟩ := t.exists_of_ask_load_eq_ok h
  cases he with
  | cons hr _ =>
    have hk := t.keyOfFile?_of_ask_readImage hr
    rw [keyOfFile?_eq, Option.map_eq_some_iff] at hk
    obtain ⟨stem, hs, -⟩ := hk
    exact ⟨stem, hs⟩

theorem Settings.listPresets_of_ofArguments {arguments : List Text} {s : Settings}
    (h : Settings.ofArguments arguments = .ok s) (hi : s.images = []) : s.listPresets = true := by
  rw [Settings.ofArguments, bind_eq_ok] at h
  obtain ⟨progress, -, h⟩ := h
  rw [bind_eq_ok] at h
  obtain ⟨settings, -, h⟩ := h
  split_ifs at h with hn
  · cases h
  · cases h
    simpa [hi] using hn

/-- A BMP file with one white pixel. -/
def dotFile : Octets :=
  [0x42, 0x4d] ++ List.replicate 8 0 ++ [54, 0, 0, 0] ++
    [40, 0, 0, 0, 1, 0, 0, 0, 1, 0, 0, 0, 1, 0, 24] ++ List.replicate 25 0 ++ [255, 255, 255, 0]

def dotReader : ImageReader := fun _ file => do
  let bytes ← file.mapError Fault.message
  if bytes = dotFile then return ⟨1, 1, #[⟨255, 255, 255, 255⟩], by decide⟩
  else throw "The image format could not be determined".toList

def dotTree : FileTree where
  root := .directory [("a.bmp".toList, .file dotFile),
    ("t".toList, .file (Text.utf8 "$(documentName)$(k)".toList))]

def dotSettings : Settings where
  images := ["a.bmp".toList]
  template := some "t".toList
  tags := [("k".toList, "u".toList), ("k".toList, "v".toList)]
  output := some "o".toList

end RasterText
