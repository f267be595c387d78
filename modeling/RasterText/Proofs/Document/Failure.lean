import RasterText.Proofs.Items.Collection
import RasterText.Proofs.Document.TagUse
set_option autoImplicit false

namespace RasterText

def errorOf {ε α : Type} : Except ε α → Option ε
  | .error e => some e
  | .ok _ => none

section Except

variable {ε δ α β γ : Type}

theorem errorOf_eq_none {x : Except ε α} : errorOf x = none ↔ ∃ a, x = .ok a := by
  cases x <;> simp [errorOf]

theorem errorOf_eq_some {x : Except ε α} {e : ε} : errorOf x = some e ↔ x = .error e := by
  cases x <;> simp [errorOf]

theorem errorOf_mapError (f : ε → δ) (x : Except ε α) :
    errorOf (x.mapError f) = (errorOf x).map f := by
  cases x <;> rfl

theorem errorOf_map (f : α → β) (x : Except ε α) : errorOf (f <$> x) = errorOf x := by
  cases x <;> rfl

theorem errorOf_bind_map (x : Except ε α) (y : Except ε β) (f : α → β → γ) :
    errorOf (do let a ← x; let b ← y; pure (f a b)) = (errorOf x).or (errorOf y) := by
  cases x with
  | error e => rfl
  | ok a => cases y <;> rfl

end Except

theorem errorOf_convert (p : Preset) (image : Raster) :
    errorOf (Pipeline.standard.convert p image) =
      if p.matrix.used = 0 then some .emptyMask else none := by
  by_cases h : p.matrix.used = 0
  · simp [Pipeline.convert, Pipeline.standard, h, bind, Except.bind, errorOf]
  · simp [Pipeline.convert, Pipeline.standard, h, bind, Except.bind, errorOf]

/-- What the copy for an item fails with. -/
def Preset.itemFault? (p : Preset) (key : Text) : Option RenderError :=
  if p.matrix.used = 0 then some (.pipeline .emptyMask)
  else if Charset.ofLabel? p.font.encoding = none ∧ key ≠ [] then
    some (.encoding ⟨p.font.encoding⟩)
  else none

def Preset.tableFault? (p : Preset) (keys : List Text) : Option RenderError :=
  if keys = [] then none
  else if p.matrix.used = 0 then some (.pipeline .emptyMask)
  else if Charset.ofLabel? p.font.encoding = none ∧ ∃ key ∈ keys, key ≠ [] then
    some (.encoding ⟨p.font.encoding⟩)
  else none

theorem Preset.findSome?_itemFault (p : Preset) (keys : List Text) :
    keys.findSome? p.itemFault? = p.tableFault? keys := by
  induction keys with
  | nil => rfl
  | cons key rest ih =>
    rw [List.findSome?_cons, ih]
    by_cases hm : p.matrix.used = 0
    · simp [itemFault?, tableFault?, hm]
    · by_cases he : Charset.ofLabel? p.font.encoding = none
      · by_cases hk : key = [] <;> by_cases hr : rest = [] <;>
          simp [itemFault?, tableFault?, hm, he, hk, hr]
      · by_cases hr : rest = [] <;> simp [itemFault?, tableFault?, hm, he, hr]

theorem Preset.tableFault?_ne_missingImage (p : Preset) (keys : List Text) (key : Text) :
    p.tableFault? keys ≠ some (.missingImage key) := by
  rw [tableFault?]
  split_ifs <;> simp

namespace Renderer

variable {r : Renderer}

theorem errorOf_charCode (r : Renderer) (key : Text) :
    errorOf (r.charCode key) =
      if Charset.ofLabel? r.preset.font.encoding = none ∧ key ≠ [] then
        some (.encoding ⟨r.preset.font.encoding⟩)
      else none := by
  cases key with
  | nil => simp [charCode, errorOf]
  | cons c rest =>
    rw [charCode, errorOf_mapError, characterCode]
    cases Charset.ofLabel? r.preset.font.encoding <;> simp [errorOf]

theorem errorOf_itemTags (hp : r.pipeline = .standard) (base : Tags) {key : Text} (last : Bool)
    {image : Raster} (hk : r.items.image? key = some image) :
    errorOf (r.itemTags base key last) = r.preset.itemFault? key := by
  have hstep : errorOf (r.itemTags base key last) =
      (errorOf ((r.pipeline.convert r.preset image).mapError RenderError.pipeline)).or
        (errorOf (r.charCode key)) := by
    rw [itemTags, hk]
    exact errorOf_bind_map _ _ _
  rw [hstep, errorOf_mapError, hp, errorOf_convert, errorOf_charCode, Preset.itemFault?]
  by_cases hm : r.preset.matrix.used = 0
  · rw [if_pos hm, if_pos hm, Option.map_some, Option.some_or]
  · rw [if_neg hm, if_neg hm, Option.map_none, Option.none_or]

theorem errorOf_expandKeys (hp : r.pipeline = .standard) (base : Tags) (body : List Node)
    {keys : List Text} (hk : ∀ key ∈ keys, ∃ image, r.items.image? key = some image) :
    errorOf (r.expandKeys base body keys) = r.preset.tableFault? keys := by
  rw [← Preset.findSome?_itemFault]
  induction keys with
  | nil => rfl
  | cons key rest ih =>
    have hrest := ih fun k hm => hk k (List.mem_cons_of_mem _ hm)
    obtain ⟨image, hi⟩ := hk key List.mem_cons_self
    rw [expandKeys, errorOf_bind_map, expandItem_eq, errorOf_map,
      errorOf_itemTags hp base rest.isEmpty hi, hrest, List.findSome?_cons]
    cases r.preset.itemFault? key <;> rfl

mutual

theorem errorOf_renderNode (hp : r.pipeline = .standard)
    (hk : ∀ key ∈ r.items.keys, ∃ image, r.items.image? key = some image) (base : Tags)
    (node : Node) :
    errorOf (r.renderNode base node) =
      if node.holdsTable then r.preset.tableFault? r.items.keys else none := by
  cases node with
  | text _ _ | tag _ _ | unclosed _ _ | strayEnd _ _ => simp [renderNode, errorOf, Node.holdsTable]
  | block name body span =>
    rw [renderNode, Node.holdsTable]
    by_cases hn : name = imagesTable
    · rw [if_pos hn, errorOf_expandKeys hp base body hk]
      simp [hn]
    · rw [if_neg hn, errorOf_render hp hk base body]
      simp [hn]

theorem errorOf_render (hp : r.pipeline = .standard)
    (hk : ∀ key ∈ r.items.keys, ∃ image, r.items.image? key = some image) (base : Tags)
    (nodes : List Node) :
    errorOf (r.render base nodes) =
      if holdsTable nodes then r.preset.tableFault? r.items.keys else none := by
  cases nodes with
  | nil => rfl
  | cons node rest =>
    rw [render, errorOf_bind_map, errorOf_renderNode hp hk base node,
      errorOf_render hp hk base rest, holdsTable]
    cases node.holdsTable <;> cases holdsTable rest <;>
      cases r.preset.tableFault? r.items.keys <;> rfl

end

end Renderer

theorem errorOf_renderTemplate (source : Text) (tags : Tags) (c : Collection) (p : Preset) :
    errorOf (renderTemplate source tags c.source p) =
      match parse source with
      | .error faults => some (.parse faults)
      | .ok nodes => if holdsTable nodes then p.tableFault? c.keys else none := by
  rw [renderTemplate]
  cases parse source with
  | error faults => rfl
  | ok nodes => exact Renderer.errorOf_render rfl (fun key => c.exists_image) _ nodes

/-- Rendering for a collection fails with the errors of the parser, or else, where there is an
images table and an item, for a mask without bits or for a label without a character set. It does
not fail for any other reason. -/
theorem renderTemplate_outcome (source : Text) (tags : Tags) (c : Collection) (p : Preset) :
    (match parse source with
      | .error faults => renderTemplate source tags c.source p = .error (.parse faults)
      | .ok nodes =>
        if holdsTable nodes = false ∨ c.keys = [] then
          ∃ text, renderTemplate source tags c.source p = .ok text
        else if p.matrix.used = 0 then
          renderTemplate source tags c.source p = .error (.pipeline .emptyMask)
        else if Charset.ofLabel? p.font.encoding = none ∧ ∃ key ∈ c.keys, key ≠ [] then
          renderTemplate source tags c.source p = .error (.encoding ⟨p.font.encoding⟩)
        else ∃ text, renderTemplate source tags c.source p = .ok text) ∧
      ∀ key, renderTemplate source tags c.source p ≠ .error (.missingImage key) := by
  have hr := errorOf_renderTemplate source tags c p
  cases hs : parse source with
  | error faults =>
    simp only [hs, errorOf_eq_some] at hr
    exact ⟨hr, fun key => by simp [hr]⟩
  | ok nodes =>
    simp only [hs] at hr ⊢
    refine ⟨?_, fun key hm => ?_⟩
    · split_ifs with hn hm he
      · rw [← errorOf_eq_none, hr]
        rcases hn with hn | hn <;> simp [hn, Preset.tableFault?]
      -- from here on there is an images table, and an item to expand it for
      all_goals
        simp only [not_or, Bool.not_eq_false] at hn
        simp only [hn.1, if_true, Preset.tableFault?, if_neg hn.2] at hr
      · rwa [if_pos hm, errorOf_eq_some] at hr
      · rwa [if_neg hm, if_pos he, errorOf_eq_some] at hr
      · rwa [if_neg hm, if_neg he, errorOf_eq_none] at hr
    · rw [errorOf_eq_some.2 hm] at hr
      cases ht : holdsTable nodes with
      | false => simp [ht] at hr
      | true =>
        rw [ht, if_pos rfl] at hr
        exact p.tableFault?_ne_missingImage c.keys key hr.symm

end RasterText
