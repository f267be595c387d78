import Mathlib.Data.List.Nodup
import RasterText.Preset.Description
set_option autoImplicit false

namespace RasterText

theorem lookup_entry (key name value : Text) (rest : List (Text × Text)) :
    ((name, value) :: rest).lookup key = if key = name then some value else rest.lookup key := by
  rw [List.lookup_cons]
  by_cases h : key = name
  · simp [h]
  · rw [beq_false_of_ne h, if_neg h]

theorem lookup_insertEntry (name value : Text) (l : List (Text × Text)) (key : Text) :
    (insertEntry name value l).lookup key = if key = name then some value else l.lookup key := by
  induction l with
  | nil => exact lookup_entry key name value []
  | cons e rest ih =>
    obtain ⟨n, v⟩ := e
    simp only [insertEntry]
    split
    · rw [lookup_entry]
    · split
      · next heq =>
        subst heq
        rw [lookup_entry, lookup_entry]
        split <;> rfl
      · next hne =>
        rw [lookup_entry, lookup_entry, ih]
        by_cases h : key = name
        · rw [if_pos h, if_pos h, if_neg fun hn => hne (h ▸ hn)]
        · rw [if_neg h, if_neg h]

section Names

variable {l : List (Text × Text)} {key value : Text}

theorem lookup_eq_some_iff_mem (hl : (l.map Prod.fst).Nodup) :
    l.lookup key = some value ↔ (key, value) ∈ l := by
  induction l with
  | nil => simp
  | cons e rest ih =>
    obtain ⟨name, v⟩ := e
    rw [List.map_cons, List.nodup_cons] at hl
    rw [lookup_entry, List.mem_cons, Prod.mk.injEq]
    by_cases hk : key = name
    · subst hk
      have hn : (key, value) ∉ rest := fun hm => hl.1 (List.mem_map.2 ⟨_, hm, rfl⟩)
      simp [hn, eq_comm]
    · simp [hk, ih hl.2]

theorem lookup_reverse (hl : (l.map Prod.fst).Nodup) (key : Text) :
    l.reverse.lookup key = l.lookup key := by
  have hr : (l.reverse.map Prod.fst).Nodup := by rwa [List.map_reverse, List.nodup_reverse]
  ext value
  rw [lookup_eq_some_iff_mem hr, lookup_eq_some_iff_mem hl, List.mem_reverse]

theorem exists_lookup (hk : key ∈ l.map Prod.fst) : ∃ value, l.lookup key = some value := by
  obtain ⟨e, he, rfl⟩ := List.mem_map.1 hk
  exact Option.isSome_iff_exists.1 (List.lookup_isSome_iff.2 ⟨e, he, beq_self_eq_true _⟩)

end Names

namespace Tags

variable (t : Tags)

theorem get?_insert (name value key : Text) :
    (t.insert name value).get? key = if key = name then some value else t.get? key :=
  lookup_insertEntry name value t.entries key

theorem get?_insertMany (entries : List (Text × Text)) (key : Text) :
    (t.insertMany entries).get? key = (entries.reverse.lookup key).or (t.get? key) := by
  induction entries generalizing t with
  | nil => rfl
  | cons e rest ih =>
    have hc : t.insertMany (e :: rest) = (t.insert e.1 e.2).insertMany rest := rfl
    rw [hc, ih, get?_insert, List.reverse_cons, List.lookup_append, Option.or_assoc]
    have hl : List.lookup key [e] = if key = e.1 then some e.2 else none :=
      lookup_entry key e.1 e.2 []
    rw [hl]
    by_cases h : key = e.1
    · rw [if_pos h, if_pos h, Option.some_or]
    · rw [if_neg h, if_neg h, Option.none_or]

theorem get?_ofList (entries : List (Text × Text)) (key : Text) :
    (ofList entries).get? key = entries.reverse.lookup key := by
  have he : empty.get? key = none := rfl
  rw [ofList, get?_insertMany, he, Option.or_none]

theorem nodup_names : (t.entries.map Prod.fst).Nodup := by
  rw [List.Nodup, List.pairwise_map]
  exact t.sorted.imp fun {a b} h (he : a.1 = b.1) => Std.lt_irrefl (he ▸ h)

theorem get?_merge (other : Tags) (key : Text) :
    (t.merge other).get? key = (other.get? key).or (t.get? key) := by
  rw [merge, get?_insertMany, lookup_reverse other.nodup_names]
  rfl

def erase (name : Text) : Tags where
  entries := t.entries.filter fun e => e.1 ≠ name
  sorted := t.sorted.filter _

theorem get?_erase (name key : Text) :
    (t.erase name).get? key = if key = name then none else t.get? key := by
  have h (l : List (Text × Text)) :
      (l.filter fun e => e.1 ≠ name).lookup key = if key = name then none else l.lookup key := by
    induction l with
    | nil => simp
    | cons e rest ih =>
      obtain ⟨n, v⟩ := e
      rw [lookup_entry]
      by_cases hn : n = name
      · rw [List.filter_cons_of_neg (by simpa using hn), ih]
        by_cases hk : key = name
        · rw [if_pos hk, if_pos hk]
        · rw [if_neg hk, if_neg hk, if_neg fun h => hk (h.trans hn)]
      · rw [List.filter_cons_of_pos (by simpa using hn), lookup_entry, ih]
        by_cases hk : key = n
        · rw [if_pos hk, if_neg fun h => hn (hk ▸ h), if_pos hk]
        · rw [if_neg hk, if_neg hk]
  exact h t.entries

end Tags

theorem foldl_set (s : Scope) (tags : List (Text × Text)) :
    tags.foldl (fun s e => s.set e.1 e.2) s = ⟨s.base, s.overlay.insertMany tags⟩ := by
  induction tags generalizing s with
  | nil => rfl
  | cons e rest ih => rw [List.foldl_cons, ih]; rfl

theorem Scope.get?_ofList {entries : List (Text × Text)} {key value : Text}
    (h : entries.reverse.lookup key = some value) (base : Tags) :
    (Scope.mk base (.ofList entries)).get? key = some value := by
  rw [Scope.get?, Tags.get?_ofList, h, Option.some_or]

theorem Preset.get?_tags (p : Preset) :
    p.tags.get? "bpp".toList = some (decimal p.matrix.bitsPerPixel) ∧
      p.tags.get? "dataBlockSize".toList = some (decimal p.layout.blockSize.bits) := by
  rw [tags, Tags.get?_ofList, Tags.get?_ofList]
  exact ⟨rfl, rfl⟩

end RasterText
