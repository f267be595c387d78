import RasterText.Items.Collection
set_option autoImplicit false

namespace RasterText.Collection

variable {c : Collection} {key : Text} {image : Raster}

theorem getElem?_keys (c : Collection) (i : Nat) : c.keys[i]? = (c.items[i]?).map Prod.fst := by
  simp [keys]

theorem slots_eq_some_iff {i : Nat} : c.slots[key]? = some i ↔ c.keys[i]? = some key := by
  rw [c.slots_iff, getElem?_keys]

theorem eq_of_getElem?_keys {i j : Nat} (hi : c.keys[i]? = some key) (hj : c.keys[j]? = some key) :
    i = j := by
  rw [← slots_eq_some_iff] at hi hj
  exact Option.some.inj (hi.symm.trans hj)

theorem slots_eq_none_iff : c.slots[key]? = none ↔ key ∉ c.keys := by
  rw [Option.eq_none_iff_forall_ne_some, List.mem_iff_getElem?, not_exists]
  exact forall_congr' fun i => not_congr slots_eq_some_iff

theorem exists_item {slot : Nat} (h : c.slots[key]? = some slot) :
    ∃ image, c.items[slot]? = some (key, image) := by
  obtain ⟨e, he, rfl⟩ := Option.map_eq_some_iff.1 ((c.slots_iff key slot).1 h)
  exact ⟨e.2, he⟩

theorem image?_eq_some_iff :
    c.image? key = some image ↔ ∃ i : Nat, c.items[i]? = some (key, image) := by
  constructor
  · intro h
    unfold image? at h
    split at h
    · next slot hs =>
      obtain ⟨im, hi⟩ := exists_item hs
      rw [hi] at h
      cases h
      exact ⟨slot, hi⟩
    · cases h
  · rintro ⟨i, hi⟩
    have hs : c.slots[key]? = some i := (c.slots_iff key i).2 (by rw [hi]; rfl)
    simp [image?, hs, hi]

theorem exists_image (h : key ∈ c.keys) : ∃ image, c.image? key = some image := by
  obtain ⟨slot, hs⟩ := List.mem_iff_getElem?.1 h
  obtain ⟨image, hi⟩ := exists_item (slots_eq_some_iff.2 hs)
  exact ⟨image, image?_eq_some_iff.2 ⟨slot, hi⟩⟩

theorem items_insert_of_some {slot : Nat} (h : c.slots[key]? = some slot) :
    (c.insert key image).items = c.items.setIfInBounds slot (key, image) := by
  unfold insert
  split <;> simp_all

theorem items_insert_of_none (h : c.slots[key]? = none) :
    (c.insert key image).items = c.items.push (key, image) := by
  unfold insert
  split <;> simp_all

theorem keys_insert_of_mem (h : key ∈ c.keys) : (c.insert key image).keys = c.keys := by
  obtain ⟨slot, hs⟩ := List.mem_iff_getElem?.1 h
  have hslot := slots_eq_some_iff.2 hs
  obtain ⟨im, hi⟩ := exists_item hslot
  obtain ⟨hlt, -⟩ := Array.getElem?_eq_some_iff.1 hi
  refine List.ext_getElem? fun i => ?_
  rw [getElem?_keys, items_insert_of_some hslot, Array.getElem?_setIfInBounds]
  split
  · next he =>
    subst he
    rw [hs, Option.map_some]
  · rw [getElem?_keys]

theorem keys_insert_of_not_mem (h : key ∉ c.keys) :
    (c.insert key image).keys = c.keys ++ [key] := by
  rw [keys, items_insert_of_none (slots_eq_none_iff.2 h)]
  simp [keys]

theorem keys_insert (c : Collection) (key : Text) (image : Raster) :
    (c.insert key image).keys = if key ∈ c.keys then c.keys else c.keys ++ [key] := by
  split
  · next h => exact keys_insert_of_mem h
  · next h => exact keys_insert_of_not_mem h

theorem getElem?_keys_insert {i : Nat} (hi : i < c.keys.length) :
    (c.insert key image).keys[i]? = c.keys[i]? := by
  rw [keys_insert]
  split
  · rfl
  · rw [List.getElem?_append_left hi]

theorem image?_insert_self : (c.insert key image).image? key = some image := by
  rw [image?_eq_some_iff]
  cases hs : c.slots[key]? with
  | none => exact ⟨c.items.size, by simp [items_insert_of_none hs]⟩
  | some slot =>
    obtain ⟨im, hi⟩ := exists_item hs
    obtain ⟨hlt, -⟩ := Array.getElem?_eq_some_iff.1 hi
    exact ⟨slot, by simp [items_insert_of_some hs, hlt]⟩

theorem image?_insert_of_ne {k : Text} (hk : k ≠ key) :
    (c.insert key image).image? k = c.image? k := by
  ext im
  rw [image?_eq_some_iff, image?_eq_some_iff]
  refine exists_congr fun i => ?_
  cases hs : c.slots[key]? with
  | none =>
    rw [items_insert_of_none hs, Array.getElem?_push]
    split
    · next hi => simp [hi, Ne.symm hk]
    · rfl
  | some slot =>
    obtain ⟨old, ho⟩ := exists_item hs
    rw [items_insert_of_some hs, Array.getElem?_setIfInBounds]
    split
    · next hi => simp [← hi, ho, Ne.symm hk]
    · rfl

theorem image?_insert (c : Collection) (key : Text) (image : Raster) :
    (c.insert key image).image? = fun k => if k = key then some image else c.image? k := by
  funext k
  split
  · next h => rw [h, image?_insert_self]
  · next h => exact image?_insert_of_ne h

theorem keys_empty : empty.keys = [] := rfl

theorem image?_empty : empty.image? = fun _ => none := by
  funext k
  simp [image?, empty]

end RasterText.Collection
