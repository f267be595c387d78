import Mathlib.Data.List.Forall2
import RasterText.CommandLine.Program
import RasterText.Files.Tree
set_option autoImplicit false

/-!
Computations that only read. Such a computation has an answer in every tree and leaves the tree as
it is, and so do several of them one after the other. All that the program does before it delivers a
document is of this kind.
-/

namespace RasterText

variable {α β : Type}

def FileTree.ask (t : FileTree) (x : StateM FileTree α) : α := (x.run t).1

def ReadsOnly (x : StateM FileTree α) : Prop := ∀ t, x.run t = (t.ask x, t)

section Steps

variable {x : StateM FileTree α} {f : α → StateM FileTree β} {t : FileTree}

theorem readsOnly_pure (a : α) : ReadsOnly (pure a) := fun _ => rfl

theorem ReadsOnly.run_bind (h : ReadsOnly x) (f : α → StateM FileTree β) (t : FileTree) :
    (x >>= f).run t = (f (t.ask x)).run t := by
  rw [StateT.run_bind, h t]
  rfl

theorem ReadsOnly.ask_bind (h : ReadsOnly x) (f : α → StateM FileTree β) (t : FileTree) :
    t.ask (x >>= f) = t.ask (f (t.ask x)) := congrArg Prod.fst (h.run_bind f t)

theorem ReadsOnly.bind (h : ReadsOnly x) (hf : ∀ a, ReadsOnly (f a)) : ReadsOnly (x >>= f) := by
  intro t
  rw [h.run_bind, h.ask_bind]
  exact hf _ t

end Steps

theorem readsOnly_read (path : Text) :
    ReadsOnly (FileAccess.read path : StateM FileTree (Except Fault Octets)) := fun _ => rfl

theorem readsOnly_readText (path : Text) :
    ReadsOnly (readText path : StateM FileTree (Except Fault Text)) := by
  refine (readsOnly_read path).bind fun answer => ?_
  cases answer with
  | error fault => exact readsOnly_pure _
  | ok bytes =>
    dsimp only
    cases Text.ofUtf8? bytes <;> exact readsOnly_pure _

theorem readsOnly_loadTemplate (path? : Option Text) (kind : DocumentKind) :
    ReadsOnly (loadTemplate path? kind : StateM FileTree (Except Fault TemplateBody)) := by
  cases path? with
  | none => exact readsOnly_pure _
  | some path =>
    refine (readsOnly_readText path).bind fun answer => ?_
    cases answer with
    | error fault => cases fault <;> exact readsOnly_pure _
    | ok text => exact readsOnly_pure _

theorem readsOnly_findPreset (nameOrPath : Text) :
    ReadsOnly (Preset.find nameOrPath : StateM FileTree (Except PresetError Preset)) := by
  rw [Preset.find]
  cases Preset.builtin? nameOrPath with
  | some preset => exact readsOnly_pure _
  | none =>
    refine (readsOnly_readText nameOrPath).bind fun answer => ?_
    cases answer <;> exact readsOnly_pure _

theorem readsOnly_readImage (reader : ImageReader) (path : Text) :
    ReadsOnly (readImage reader path : StateM FileTree (Except LoadError (Text × Raster))) := by
  rw [readImage]
  cases keyOfFile? path with
  | none => exact readsOnly_pure _
  | some key =>
    refine (readsOnly_read path).bind fun file => ?_
    cases reader path file <;> exact readsOnly_pure _

theorem readsOnly_load (reader : ImageReader) (c : Collection) (paths : List Text) :
    ReadsOnly (c.load reader paths : StateM FileTree (Except LoadError Collection)) := by
  induction paths generalizing c with
  | nil => exact readsOnly_pure _
  | cons path paths ih =>
    refine (readsOnly_readImage reader path).bind fun answer => ?_
    cases answer with
    | error fault => exact readsOnly_pure _
    | ok entry => exact ih _

theorem readsOnly_convert (items : ItemSource) (c : ConvertConfig) :
    ReadsOnly (convert items c : StateM FileTree (Except RenderError Text)) := by
  refine (readsOnly_loadTemplate _ _).bind fun answer => ?_
  cases answer <;> exact readsOnly_pure _

theorem readsOnly_reportFaults (c : ConvertConfig) (faults : List NestedBlock) :
    ReadsOnly (reportFaults c faults : StateM FileTree Text) := by
  refine (readsOnly_loadTemplate _ _).bind fun answer => ?_
  cases answer <;> exact readsOnly_pure _

namespace FileTree

variable (t : FileTree)

theorem ask_convert (items : ItemSource) (c : ConvertConfig) :
    t.ask (convert items c) =
      match t.ask (loadTemplate c.templatePath c.kind) with
      | .error fault => .error (.templateRead (c.templatePath.getD []) fault)
      | .ok body => c.renderBody items .standard body := by
  rw [convert, convertWith, (readsOnly_loadTemplate _ _).ask_bind]
  cases t.ask (loadTemplate c.templatePath c.kind) <;> rfl

theorem ask_reportFaults {c : ConvertConfig} {body : TemplateBody}
    (h : t.ask (loadTemplate c.templatePath c.kind) = .ok body) (faults : List NestedBlock) :
    t.ask (reportFaults c faults) = faults.flatMap fun e => e.report body.text body.origin := by
  rw [reportFaults, (readsOnly_loadTemplate _ _).ask_bind, h]
  rfl

theorem ask_load_cons (reader : ImageReader) (c : Collection) (path : Text) (paths : List Text) :
    t.ask (c.load reader (path :: paths)) =
      match t.ask (readImage reader path) with
      | .error e => .error e
      | .ok entry => t.ask ((c.insert entry.1 entry.2).load reader paths) := by
  rw [Collection.load, (readsOnly_readImage reader path).ask_bind]
  cases t.ask (readImage reader path) <;> rfl

section Body

variable (items : ItemSource) {c : ConvertConfig} {body : TemplateBody}
  (hb : t.ask (loadTemplate c.templatePath c.kind) = .ok body)

include hb

theorem ask_convert_of_parse_eq_error {faults : List NestedBlock}
    (h : parse body.text = .error faults) : t.ask (convert items c) = .error (.parse faults) := by
  rw [ask_convert, hb]
  simp only [ConvertConfig.renderBody, h]
  rfl

theorem ask_convert_of_parse_eq_ok {nodes : List Node} (h : parse body.text = .ok nodes) :
    t.ask (convert items c) = Renderer.render ⟨items, .standard, c.preset⟩
      (c.documentTags body items.count) nodes := by
  rw [ask_convert, hb]
  simp only [ConvertConfig.renderBody, h]
  rfl

end Body

theorem exists_of_ask_load_eq_error {reader : ImageReader} {c : Collection} {paths : List Text}
    {error : LoadError} (h : t.ask (c.load reader paths) = .error error) :
    ∃ before path behind, paths = before ++ path :: behind ∧
      (∀ p ∈ before, ∃ entry, t.ask (readImage reader p) = .ok entry) ∧
      t.ask (readImage reader path) = .error error := by
  induction paths generalizing c with
  | nil => cases h
  | cons path paths ih =>
    rw [ask_load_cons] at h
    cases hr : t.ask (readImage reader path) with
    | error e =>
      rw [hr] at h
      cases h
      exact ⟨[], path, paths, rfl, by simp, hr⟩
    | ok entry =>
      rw [hr] at h
      obtain ⟨before, failed, behind, rfl, hb, hf⟩ := ih h
      exact ⟨path :: before, failed, behind, rfl, List.forall_mem_cons.2 ⟨⟨entry, hr⟩, hb⟩, hf⟩

theorem exists_of_ask_load_eq_ok {reader : ImageReader} {c d : Collection} {paths : List Text}
    (h : t.ask (c.load reader paths) = .ok d) :
    ∃ entries, List.Forall₂ (fun path entry => t.ask (readImage reader path) = .ok entry)
        paths entries ∧
      d = entries.foldl (fun c e => c.insert e.1 e.2) c := by
  induction paths generalizing c with
  | nil =>
    cases h
    exact ⟨[], .nil, rfl⟩
  | cons path paths ih =>
    rw [ask_load_cons] at h
    cases hr : t.ask (readImage reader path) with
    | error e =>
      rw [hr] at h
      cases h
    | ok entry =>
      rw [hr] at h
      obtain ⟨entries, he, rfl⟩ := ih h
      exact ⟨entry :: entries, .cons hr he, rfl⟩

theorem keyOfFile?_of_ask_readImage {reader : ImageReader} {path : Text} {entry : Text × Raster}
    (h : t.ask (readImage reader path) = .ok entry) : keyOfFile? path = some entry.1 := by
  rw [readImage] at h
  cases hk : keyOfFile? path with
  | none =>
    rw [hk] at h
    cases h
  | some key =>
    rw [hk] at h
    rw [(readsOnly_read path).ask_bind] at h
    cases hr : reader path (t.ask (FileAccess.read path)) with
    | error reason =>
      rw [hr] at h
      cases h
    | ok image =>
      rw [hr] at h
      cases h
      rfl

end FileTree

end RasterText
