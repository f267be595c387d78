import Mathlib.Data.Finset.Card
import RasterText.Proofs.Items.Collection
set_option autoImplicit false

namespace RasterText.Collection

variable {entries : List (Text × Raster)} {key : Text} {image : Raster}

/-- The image is the one of the last entry for the key. -/
def LastUnder (entries : List (Text × Raster)) (key : Text) (image : Raster) : Prop :=
  ∃ earlier later, entries = earlier ++ (key, image) :: later ∧ key ∉ later.map Prod.fst

/-- The collection holds what the entries leave when they are inserted one after the other. -/
structure Records (c : Collection) (entries : List (Text × Raster)) : Prop where
  mem_keys_iff : ∀ key, key ∈ c.keys ↔ key ∈ entries.map Prod.fst
  ordered : c.keys.Pairwise fun a b =>
    (entries.map Prod.fst).idxOf a < (entries.map Prod.fst).idxOf b
  image?_eq_some_iff : ∀ key image, c.image? key = some image ↔ LastUnder entries key image

theorem lastUnder_append_singleton {k : Text} {last : Raster} :
    LastUnder (entries ++ [(key, image)]) k last ↔
      if k = key then last = image else LastUnder entries k last := by
  constructor
  · rintro ⟨earlier, later, he, hn⟩
    rcases List.eq_nil_or_concat later with rfl | ⟨front, e, rfl⟩
    · obtain ⟨-, h⟩ := List.append_inj' he rfl
      cases h
      rw [if_pos rfl]
    · rw [List.concat_eq_append, ← List.cons_append, ← List.append_assoc] at he
      obtain ⟨rfl, h⟩ := List.append_inj' he rfl
      cases h
      simp only [List.concat_eq_append, List.map_append, List.mem_append, not_or, List.map_cons,
        List.map_nil, List.mem_singleton] at hn
      rw [if_neg hn.2]
      exact ⟨earlier, front, rfl, hn.1⟩
  · intro h
    split at h
    · next hk =>
      subst hk h
      exact ⟨entries, [], rfl, List.not_mem_nil⟩
    · next hk =>
      obtain ⟨earlier, later, rfl, hn⟩ := h
      refine ⟨earlier, later ++ [(key, image)], by simp, ?_⟩
      simpa [hk] using hn

theorem exists_lastUnder (h : key ∈ entries.map Prod.fst) :
    ∃ image, LastUnder entries key image := by
  induction entries using List.reverseRecOn with
  | nil => cases h
  | append_singleton entries e ih =>
    obtain ⟨name, last⟩ := e
    simp only [lastUnder_append_singleton]
    split
    · exact ⟨last, rfl⟩
    · next hk =>
      refine ih ?_
      simpa [hk] using h

theorem LastUnder.mem (h : LastUnder entries key image) : key ∈ entries.map Prod.fst := by
  obtain ⟨earlier, later, rfl, -⟩ := h
  simp

namespace Records

variable {c : Collection}

theorem insert (h : c.Records entries) (key : Text) (image : Raster) :
    (c.insert key image).Records (entries ++ [(key, image)]) := by
  have hkept : c.keys.Pairwise fun a b =>
      (entries.map Prod.fst ++ [key]).idxOf a < (entries.map Prod.fst ++ [key]).idxOf b :=
    h.ordered.imp_of_mem fun {a b} ha hb hlt => by
      rwa [List.idxOf_append_of_mem ((h.mem_keys_iff a).1 ha),
        List.idxOf_append_of_mem ((h.mem_keys_iff b).1 hb)]
  constructor
  case mem_keys_iff =>
    intro k
    rw [keys_insert, List.map_append, List.mem_append, ← h.mem_keys_iff]
    split
    · next hk =>
      simp only [List.map_cons, List.map_nil, List.mem_singleton, iff_self_or]
      rintro rfl
      exact hk
    · simp
  case ordered =>
    rw [keys_insert, List.map_append]
    split
    · exact hkept
    · next hk =>
      -- the new key comes in behind all others
      refine List.pairwise_append.2 ⟨hkept, List.pairwise_singleton _ _, fun a ha b hb => ?_⟩
      obtain rfl := List.mem_singleton.1 hb
      have hm := (h.mem_keys_iff a).1 ha
      rw [h.mem_keys_iff] at hk
      simpa [List.idxOf_append_of_mem hm, List.idxOf_append_of_notMem hk] using
        List.idxOf_lt_length_of_mem hm
  case image?_eq_some_iff =>
    intro k last
    rw [image?_insert, lastUnder_append_singleton]
    by_cases hk : k = key
    · simp [hk, eq_comm]
    · simp [hk, h.image?_eq_some_iff]

theorem nodup_keys (h : c.Records entries) : c.keys.Nodup :=
  h.ordered.imp fun {a b} hlt (he : a = b) => Nat.lt_irrefl _ (he ▸ hlt)

theorem length_keys (h : c.Records entries) :
    c.keys.length = (entries.map Prod.fst).toFinset.card := by
  have hs : c.keys.toFinset = (entries.map Prod.fst).toFinset := by
    ext key
    rw [List.mem_toFinset, List.mem_toFinset, h.mem_keys_iff]
  rw [← hs, List.toFinset_card_of_nodup h.nodup_keys]

end Records

theorem ofList_append_singleton (entries : List (Text × Raster)) (e : Text × Raster) :
    ofList (entries ++ [e]) = (ofList entries).insert e.1 e.2 := by
  simp [ofList]

theorem records_ofList (entries : List (Text × Raster)) : (ofList entries).Records entries := by
  induction entries using List.reverseRecOn with
  | nil => exact ⟨by simp [ofList, keys_empty], by simp [ofList, keys_empty],
      fun key image => by simp [ofList, image?_empty, LastUnder]⟩
  | append_singleton entries e ih =>
    rw [ofList_append_singleton]
    exact ih.insert e.1 e.2

theorem slots_eq_some_iff_getElem (c : Collection) (key : Text) (i : Nat) :
    c.slots[key]? = some i ↔ ∃ h : i < c.items.size, c.items[i].1 = key := by
  rw [c.slots_iff, Option.map_eq_some_iff]
  constructor
  · rintro ⟨e, he, rfl⟩
    obtain ⟨hlt, rfl⟩ := Array.getElem?_eq_some_iff.1 he
    exact ⟨hlt, rfl⟩
  · rintro ⟨hlt, rfl⟩
    exact ⟨_, Array.getElem?_eq_getElem hlt, rfl⟩

/-- After any insertions the index leads to every slot by its key and nowhere else, the keys stand
in the order of their first insertion, and under each of them there is the image that was inserted
last. -/
theorem ofList_orderedMap (entries : List (Text × Raster)) :
    let c := ofList entries
    let inserted := entries.map Prod.fst
    (∀ key i, c.slots[key]? = some i ↔ ∃ h : i < c.items.size, c.items[i].1 = key) ∧
      c.keys.Nodup ∧ (∀ key, key ∈ c.keys ↔ key ∈ inserted) ∧
      c.keys.Pairwise (fun a b => inserted.idxOf a < inserted.idxOf b) ∧
      (∀ key image, c.image? key = some image ↔ LastUnder entries key image) ∧
      (∀ key, c.image? key = none ↔ key ∉ inserted) ∧
      (c.size = inserted.toFinset.card ∧ c.source.count = inserted.toFinset.card ∧
        c.keys.length = inserted.toFinset.card) ∧
      ∀ key, key ∈ c.keys ↔ ∃ image, c.image? key = some image := by
  intro c inserted
  have h : c.Records entries := records_ofList entries
  have hsome (key : Text) : key ∈ inserted ↔ ∃ image, c.image? key = some image := by
    simp only [h.image?_eq_some_iff]
    exact ⟨exists_lastUnder, fun ⟨_, hl⟩ => hl.mem⟩
  have hsize : c.size = c.keys.length := by simp [size, keys]
  refine ⟨c.slots_eq_some_iff_getElem, h.nodup_keys, h.mem_keys_iff, h.ordered,
    h.image?_eq_some_iff, fun key => ?_, ⟨hsize.trans h.length_keys, h.length_keys, h.length_keys⟩,
    fun key => (h.mem_keys_iff key).trans (hsome key)⟩
  rw [hsome, Option.eq_none_iff_forall_ne_some, not_exists]

end RasterText.Collection
