import Std.Data.HashMap.Lemmas
import RasterText.Items.Source
set_option autoImplicit false

namespace RasterText

instance : Hashable Text where
  hash t := hash (String.ofList t)

/-- The index knows exactly the keys that stand in a slot. -/
structure Collection where
  items : Array (Text × Raster) := #[]
  slots : Std.HashMap Text Nat := ∅
  slots_iff : ∀ (key : Text) (i : Nat),
    slots[key]? = some i ↔ (items[i]?).map Prod.fst = some key := by simp

namespace Collection

def empty : Collection := {}

/-- The new image takes the slot of its key, or a new one at the end. -/
def insert (c : Collection) (key : Text) (image : Raster) : Collection :=
  match h : c.slots[key]? with
  | some slot =>
    { items := c.items.setIfInBounds slot (key, image)
      slots := c.slots
      slots_iff := by
        intro k i
        have hs := (c.slots_iff key slot).1 h
        rw [c.slots_iff, Array.getElem?_setIfInBounds]
        by_cases hi : slot = i
        · subst hi
          obtain ⟨e, he, hk⟩ := Option.map_eq_some_iff.1 hs
          obtain ⟨hlt, rfl⟩ := Array.getElem?_eq_some_iff.1 he
          simp [hk, hlt]
        · simp [hi] }
  | none =>
    { items := c.items.push (key, image)
      slots := c.slots.insert key c.items.size
      slots_iff := by
        intro k i
        rw [Std.HashMap.getElem?_insert, Array.getElem?_push]
        by_cases hk : key = k
        · subst hk
          by_cases hi : i = c.items.size
          · simp [hi]
          · have hn := mt (c.slots_iff key i).2 (by simp [h])
            simp [hi, hn, Ne.symm hi]
        · by_cases hi : i = c.items.size
          · have hn : c.slots[k]? ≠ some c.items.size := fun hc => by
              simpa using (c.slots_iff k _).1 hc
            simp [hk, hi, hn]
          · simp [hk, hi, c.slots_iff] }

def ofList (entries : List (Text × Raster)) : Collection :=
  entries.foldl (fun c e => c.insert e.1 e.2) empty

def keys (c : Collection) : List Text := c.items.toList.map Prod.fst

def size (c : Collection) : Nat := c.items.size

def isEmpty (c : Collection) : Bool := c.items.isEmpty

def image? (c : Collection) (key : Text) : Option Raster :=
  match c.slots[key]? with
  | some slot => (c.items[slot]?).map Prod.snd
  | none => none

def source (c : Collection) : ItemSource := ⟨c.keys, c.image?⟩

end Collection

end RasterText
