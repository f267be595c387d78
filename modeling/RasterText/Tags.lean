import RasterText.Text.Basic
set_option autoImplicit false

/-!
Tag values by name. The entries stand in strictly increasing order of their names, compared
character by character, which is also the byte order of their UTF-8 forms. So two mappings with
the same values are equal.
-/

namespace RasterText

/-- Sets the value of `name` in a list of entries that is sorted by name. -/
def insertEntry (name value : Text) : List (Text × Text) → List (Text × Text)
  | [] => [(name, value)]
  | (n, v) :: rest =>
    if name < n then (name, value) :: (n, v) :: rest
    else if name = n then (name, value) :: rest
    else (n, v) :: insertEntry name value rest

theorem mem_insertEntry {name value : Text} {l : List (Text × Text)} {e : Text × Text}
    (h : e ∈ insertEntry name value l) : e = (name, value) ∨ e ∈ l := by
  induction l with
  | nil => simpa [insertEntry] using h
  | cons x rest ih =>
    simp only [insertEntry] at h
    split at h
    · simpa using h
    · split at h
      · simp only [List.mem_cons] at h ⊢
        exact h.imp_right Or.inr
      · simp only [List.mem_cons] at h ⊢
        rcases h with h | h
        · exact Or.inr (Or.inl h)
        · rcases ih h with h | h
          · exact Or.inl h
          · exact Or.inr (Or.inr h)

theorem insertEntry_sorted (name value : Text) {l : List (Text × Text)}
    (h : l.Pairwise fun a b => a.1 < b.1) :
    (insertEntry name value l).Pairwise fun a b => a.1 < b.1 := by
  induction l with
  | nil => simp [insertEntry]
  | cons x rest ih =>
    obtain ⟨hx, hr⟩ := List.pairwise_cons.1 h
    simp only [insertEntry]
    split
    · next hlt =>
      refine List.pairwise_cons.2 ⟨fun e he => ?_, h⟩
      rcases List.mem_cons.1 he with rfl | he
      · exact hlt
      · exact List.lt_trans hlt (hx e he)
    · next hlt =>
      split
      · next heq =>
        subst heq
        exact List.pairwise_cons.2 ⟨hx, hr⟩
      · next hne =>
        refine List.pairwise_cons.2 ⟨fun e he => ?_, ih hr⟩
        rcases mem_insertEntry he with rfl | he
        · rcases Std.lt_trichotomy name x.1 with h | h | h
          · exact absurd h hlt
          · exact absurd h hne
          · exact h
        · exact hx e he

structure Tags where
  entries : List (Text × Text) := []
  sorted : entries.Pairwise fun a b => a.1 < b.1 := by simp

def undefinedValue : Text := "<value not defined>".toList

namespace Tags

def empty : Tags := {}

def insert (t : Tags) (name value : Text) : Tags where
  entries := insertEntry name value t.entries
  sorted := insertEntry_sorted name value t.sorted

def get? (t : Tags) (name : Text) : Option Text := t.entries.lookup name

def contains (t : Tags) (name : Text) : Bool := (t.get? name).isSome

def size (t : Tags) : Nat := t.entries.length

def isEmpty (t : Tags) : Bool := t.entries.isEmpty

def insertMany (t : Tags) (entries : List (Text × Text)) : Tags :=
  entries.foldl (fun t e => t.insert e.1 e.2) t

def merge (t other : Tags) : Tags := t.insertMany other.entries

def ofList (entries : List (Text × Text)) : Tags := empty.insertMany entries

end Tags

/-- A mapping with values of its own in front of a base that stays as it is. -/
structure Scope where
  base : Tags
  overlay : Tags := .empty

namespace Scope

def set (s : Scope) (name value : Text) : Scope := { s with overlay := s.overlay.insert name value }

def get? (s : Scope) (name : Text) : Option Text := (s.overlay.get? name).or (s.base.get? name)

end Scope

def resolve (lookup : Text → Option Text) (name : Text) : Text :=
  (lookup name).getD undefinedValue

end RasterText
