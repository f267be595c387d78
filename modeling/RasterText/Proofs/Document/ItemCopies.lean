import Mathlib
import RasterText.Proofs.Document.TagUse
import RasterText.Proofs.Items.Collection
set_option autoImplicit false

/-!
The expansion of an images table is made of copies, one for each item. A copy depends on its own
item, on the number of items and on whether it is the last one; without the tags that tell the
latter two it depends on its item alone. So an item that comes in leaves the other copies as they
are.
-/

namespace RasterText

namespace Renderer

variable {r : Renderer} {base : Tags} {body : List Node}

theorem expandKeys_eq_ok {keys : List Text} {text : Text}
    (h : r.expandKeys base body keys = .ok text) :
    ∃ copies : List Text, text = copies.flatten ∧ copies.length = keys.length ∧
      ∀ (i : Nat) (key copy : Text), keys[i]? = some key → copies[i]? = some copy →
        r.expandItem base body key (i + 1 = keys.length) = .ok copy := by
  induction keys generalizing text with
  | nil =>
    cases h
    exact ⟨[], rfl, rfl, by simp⟩
  | cons key rest ih =>
    rw [expandKeys, bind_eq_ok] at h
    obtain ⟨copy, hc, h⟩ := h
    rw [bind_eq_ok] at h
    obtain ⟨more, hm, h⟩ := h
    obtain ⟨copies, rfl, hlen, hall⟩ := ih hm
    cases h
    refine ⟨copy :: copies, rfl, congrArg Nat.succ hlen, fun i k t hk ht => ?_⟩
    cases i with
    | zero =>
      cases hk
      cases ht
      have hlast : rest.isEmpty = decide (0 + 1 = (key :: rest).length) := by
        cases rest <;> simp
      rwa [← hlast]
    | succ i =>
      have hlast : (i + 1 = rest.length) = (i + 1 + 1 = (key :: rest).length) := by simp
      simpa only [← hlast] using hall i k t hk ht

end Renderer

/-- An images table with all that it is expanded with but the items. -/
structure ItemTable where
  pipeline : Pipeline
  preset : Preset
  base : Tags
  body : List Node
  span : Span

namespace ItemTable

variable (t : ItemTable)

def expand (items : ItemSource) : Except RenderError Text :=
  Renderer.renderNode ⟨items, t.pipeline, t.preset⟩ t.base (.block imagesTable t.body t.span)

/-- The copy of the body for an item, as it is where all of the `count` items are this one. -/
def copy (count : Nat) (last : Bool) (key : Text) (image : Raster) : Except RenderError Text :=
  Renderer.expandItem ⟨⟨List.replicate count key, fun _ => some image⟩, t.pipeline, t.preset⟩ t.base
    t.body key last

/-- Whether a copy shows the number of the items, or that it is the last one. -/
def TellsPlace : Prop :=
  "comma".toList ∈ keywordsOf t.body ∨ "imagesCount".toList ∈ keywordsOf t.body

/-- The copies for the images of a collection in the order of the keys, each from a line feed on. -/
structure Copies (c : Collection) (copies : List Text) : Prop where
  length_eq : copies.length = c.keys.length
  copy_eq : ∀ (i : Nat) (key text : Text), c.keys[i]? = some key → copies[i]? = some text →
    ∃ image rest, c.image? key = some image ∧ text = '\n' :: rest ∧
      t.copy c.keys.length (i + 1 = c.keys.length) key image = .ok text

theorem expandItem_eq_copy {items : ItemSource} {key : Text} {image : Raster}
    (h : items.image? key = some image) (last : Bool) :
    Renderer.expandItem ⟨items, t.pipeline, t.preset⟩ t.base t.body key last =
      t.copy items.count last key image := by
  have ht : Renderer.itemTags ⟨items, t.pipeline, t.preset⟩ t.base key last =
      Renderer.itemTags ⟨⟨List.replicate items.count key, fun _ => some image⟩, t.pipeline,
        t.preset⟩ t.base key last := by
    simp only [Renderer.itemTags, h, ItemSource.count, List.length_replicate]
    rfl
  rw [copy, Renderer.expandItem_eq, Renderer.expandItem_eq, ht]

variable {t}

theorem copy_congr (h : ¬ t.TellsPlace) (count count' : Nat) (last last' : Bool) (key : Text)
    (image : Raster) : t.copy count last key image = t.copy count' last' key image := by
  rw [TellsPlace, not_or] at h
  let r (count : Nat) : Renderer :=
    ⟨⟨List.replicate count key, fun _ => some image⟩, t.pipeline, t.preset⟩
  have hcode : (r count).charCode key = (r count').charCode key := by cases key <;> rfl
  change (r count).expandItem t.base t.body key last = (r count').expandItem t.base t.body key last'
  rw [Renderer.expandItem_eq, Renderer.expandItem_eq, Renderer.itemTags, Renderer.itemTags, hcode]
  cases hg : t.pipeline.convert t.preset image with
  | error e =>
    simp only [r, hg]
    rfl
  | ok grid =>
    cases hc : (r count').charCode key with
    | error e =>
      simp only [r, hg]
      rfl
    | ok code =>
      simp only [r, hg]
      refine congrArg (fun text => Except.ok ('\n' :: text)) ?_
      refine substitute_congr t.body fun k hk => ?_
      have hcount : k ≠ "imagesCount".toList := fun he => h.2 (he ▸ hk)
      have hcomma : k ≠ "comma".toList := fun he => h.1 (he ▸ hk)
      simp only [lookup_entry, if_neg hcount, if_neg hcomma]

section Collection

variable {c : Collection} {key : Text} {image : Raster}

theorem exists_copies {text : Text} (h : t.expand c.source = .ok text) :
    ∃ copies, text = copies.flatten ∧ t.Copies c copies := by
  rw [expand, Renderer.renderNode, if_pos rfl] at h
  obtain ⟨copies, htext, hlen, hall⟩ := Renderer.expandKeys_eq_ok h
  refine ⟨copies, htext, hlen, fun i k text hk ht => ?_⟩
  obtain ⟨image, hi⟩ := c.exists_image (List.mem_of_getElem? hk)
  have hcopy := hall i k text hk ht
  have hrest : ∃ rest, text = '\n' :: rest := by
    rw [Renderer.expandItem, bind_eq_ok] at hcopy
    obtain ⟨tags, -, hc⟩ := hcopy
    cases hc
    exact ⟨_, rfl⟩
  obtain ⟨rest, hr⟩ := hrest
  rw [expandItem_eq_copy t hi] at hcopy
  exact ⟨image, rest, hi, hr, hcopy⟩

variable {old new : List Text}

theorem Copies.getElem?_insert (h : ¬ t.TellsPlace) (hold : t.Copies c old)
    (hnew : t.Copies (c.insert key image) new) {i : Nat} (hi : i < c.keys.length)
    (hk : c.keys[i]? ≠ some key) : new[i]? = old[i]? := by
  have hk' : (c.insert key image).keys[i]? = some c.keys[i] := by
    rw [Collection.getElem?_keys_insert hi, List.getElem?_eq_getElem hi]
  have hlt : i < old.length := hold.length_eq ▸ hi
  have hlt' : i < new.length := hnew.length_eq ▸ (List.getElem?_eq_some_iff.1 hk').1
  obtain ⟨im, -, him, -, hcopy⟩ := hold.copy_eq i _ _ (List.getElem?_eq_getElem hi)
    (List.getElem?_eq_getElem hlt)
  obtain ⟨im', -, him', -, hcopy'⟩ := hnew.copy_eq i _ _ hk' (List.getElem?_eq_getElem hlt')
  have hne : c.keys[i] ≠ key := fun he => hk (by rw [List.getElem?_eq_getElem hi, he])
  rw [Collection.image?_insert_of_ne hne, him, Option.some.injEq] at him'
  subst him'
  rw [copy_congr h _ c.keys.length _ (i + 1 = c.keys.length), hcopy, Except.ok.injEq] at hcopy'
  rw [List.getElem?_eq_getElem hlt, List.getElem?_eq_getElem hlt', hcopy']

theorem Copies.insert_of_not_mem (h : ¬ t.TellsPlace) (hold : t.Copies c old)
    (hnew : t.Copies (c.insert key image) new) (hk : key ∉ c.keys) :
    ∃ copy, new = old ++ [copy] := by
  have hlen : new.length = old.length + 1 := by
    rw [hnew.length_eq, Collection.keys_insert_of_not_mem hk, hold.length_eq, List.length_append,
      List.length_singleton]
  have hlt : old.length < new.length := by omega
  refine ⟨new[old.length], List.ext_getElem? fun i => ?_⟩
  rcases Nat.lt_trichotomy i old.length with hi | rfl | hi
  · rw [List.getElem?_append_left hi]
    exact hold.getElem?_insert h hnew (hold.length_eq ▸ hi) fun he => hk (List.mem_of_getElem? he)
  · rw [List.getElem?_concat_length, List.getElem?_eq_getElem hlt]
  · rw [List.getElem?_eq_none (by omega), List.getElem?_eq_none (by simp; omega)]

theorem Copies.insert_of_getElem? (h : ¬ t.TellsPlace) (hold : t.Copies c old)
    (hnew : t.Copies (c.insert key image) new) {i : Nat} (hk : c.keys[i]? = some key) :
    ∃ copy, new = old.set i copy := by
  have hlen : new.length = old.length := by
    rw [hnew.length_eq, Collection.keys_insert_of_mem (List.mem_of_getElem? hk), hold.length_eq]
  have hlt : i < old.length := hold.length_eq ▸ (List.getElem?_eq_some_iff.1 hk).1
  refine ⟨new[i], List.ext_getElem? fun j => ?_⟩
  by_cases hj : i = j
  · subst hj
    rw [List.getElem?_set_self hlt, List.getElem?_eq_getElem]
  · rw [List.getElem?_set_ne hj]
    by_cases hjlt : j < old.length
    · refine hold.getElem?_insert h hnew (hold.length_eq ▸ hjlt) fun he => hj ?_
      exact Collection.eq_of_getElem?_keys hk he
    · rw [List.getElem?_eq_none (by omega), List.getElem?_eq_none (by omega)]

end Collection

/-- The expansion of a table before and after an image comes in. In both every copy is made from the
key and the image of its item, the number of items and whether it is the last one. If the copies do
not tell the latter two, a new key adds one copy at the end, and the image of a key that is there
already changes no copy but that in its place. -/
theorem expand_insert (t : ItemTable) (c : Collection) (key : Text) (image : Raster)
    {before after : Text} (hb : t.expand c.source = .ok before)
    (ha : t.expand (c.insert key image).source = .ok after) :
    ∃ old new : List Text, before = old.flatten ∧ after = new.flatten ∧
      t.Copies c old ∧ t.Copies (c.insert key image) new ∧
      (¬ t.TellsPlace →
        (key ∉ c.keys → ∃ copy, new = old ++ [copy]) ∧
        ∀ i, c.keys[i]? = some key → ∃ copy, new = old.set i copy) := by
  obtain ⟨old, hbefore, hold⟩ := exists_copies hb
  obtain ⟨new, hafter, hnew⟩ := exists_copies ha
  exact ⟨old, new, hbefore, hafter, hold, hnew, fun h =>
    ⟨hold.insert_of_not_mem h hnew, fun i hk => hold.insert_of_getElem? h hnew hk⟩⟩

def grayRow (width : UInt8) : Raster :=
  ⟨width.toNat, 1, (List.replicate width.toNat ⟨127, 127, 127, 255⟩).toArray,
    by simp, width.toNat_lt.trans (by decide), by decide⟩

def twoLetters : Collection := (Collection.empty.insert ['a'] (grayRow 1)).insert ['b'] (grayRow 1)

/-- `@charText@:@width@` -/
def widthTable : ItemTable where
  pipeline := .standard
  preset := {}
  base := .empty
  body := [.tag "charText".toList ⟨0, 10⟩, .text [':'] ⟨10, 11⟩, .tag "width".toList ⟨11, 18⟩]
  span := ⟨0, 18⟩

theorem expand_insert_letters :
    widthTable.expand twoLetters.source = .ok "\na:1\nb:1".toList ∧
      widthTable.expand (twoLetters.insert ['a'] (grayRow 2)).source =
        .ok "\na:2\nb:1".toList ∧
      ¬ widthTable.TellsPlace ∧ twoLetters.keys[0]? = some ['a'] ∧
      ∃ old copy, "\na:1\nb:1".toList = old.flatten ∧ widthTable.Copies twoLetters old ∧
        "\na:2\nb:1".toList = (old.set 0 copy).flatten := by
  have hb : widthTable.expand twoLetters.source = .ok "\na:1\nb:1".toList := by
    simp only [Collection.source, twoLetters, Collection.keys_insert, Collection.image?_insert,
      Collection.keys_empty, Collection.image?_empty]
    cbv
  have ha : widthTable.expand (twoLetters.insert ['a'] (grayRow 2)).source =
      .ok "\na:2\nb:1".toList := by
    simp only [Collection.source, twoLetters, Collection.keys_insert, Collection.image?_insert,
      Collection.keys_empty, Collection.image?_empty]
    cbv
  have ht : ¬ widthTable.TellsPlace := by
    rw [TellsPlace]
    decide
  have hk : twoLetters.keys[0]? = some ['a'] := by
    simp [twoLetters, Collection.keys_insert, Collection.keys_empty]
  obtain ⟨old, new, hbefore, hafter, hold, -, hsame⟩ := widthTable.expand_insert _ _ _ hb ha
  obtain ⟨copy, rfl⟩ := (hsame ht).2 0 hk
  exact ⟨hb, ha, ht, hk, old, copy, hbefore, hold, hafter⟩

end ItemTable

end RasterText
