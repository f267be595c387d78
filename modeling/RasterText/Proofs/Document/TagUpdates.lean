import Mathlib.Data.Finset.Card
import RasterText.Proofs.Document.TagValues
import RasterText.Proofs.Text.Utf8
set_option autoImplicit false

namespace RasterText

/-- The value is the one of the last entry for the name. -/
def LastWrite (writes : List (Text × Text)) (name value : Text) : Prop :=
  ∃ earlier later, writes = earlier ++ (name, value) :: later ∧ name ∉ later.map Prod.fst

section Writes

variable {writes : List (Text × Text)} {name value : Text}

theorem notMem_names_iff :
    name ∉ writes.map Prod.fst ↔ ∀ e ∈ writes, (name != e.1) = true := by
  simp only [List.mem_map, not_exists, not_and, bne_iff_ne]
  exact forall₂_congr fun e _ => ne_comm

theorem lookup_reverse_eq_none_iff :
    writes.reverse.lookup name = none ↔ name ∉ writes.map Prod.fst := by
  rw [List.lookup_eq_none_iff, ← notMem_names_iff, List.map_reverse, List.mem_reverse]

theorem lookup_reverse_eq_some_iff :
    writes.reverse.lookup name = some value ↔ LastWrite writes name value := by
  rw [List.lookup_eq_some_iff]
  simp only [← notMem_names_iff]
  constructor
  · rintro ⟨later, earlier, he, hn⟩
    refine ⟨earlier.reverse, later.reverse, ?_, ?_⟩
    · rw [← List.reverse_reverse writes, he]
      simp
    · rwa [List.map_reverse, List.mem_reverse]
  · rintro ⟨earlier, later, rfl, hn⟩
    refine ⟨later.reverse, earlier.reverse, by simp, ?_⟩
    rwa [List.map_reverse, List.mem_reverse]

end Writes

namespace Tags

inductive Update where
  /-- Sets one tag, in place or as a link of a chain that sets tag after tag. -/
  | insert (name value : Text)
  | merge (other : Tags)

namespace Update

def apply (t : Tags) : Update → Tags
  | insert name value => t.insert name value
  | merge other => t.merge other

def writes : Update → List (Text × Text)
  | insert name value => [(name, value)]
  | merge other => other.entries

theorem apply_eq_insertMany (u : Update) (t : Tags) : u.apply t = t.insertMany u.writes := by
  cases u with
  | insert name value => rfl
  | merge other => rfl

end Update

variable (t : Tags)

def updateMany (updates : List Update) : Tags := updates.foldl Update.apply t

theorem insertMany_append (first second : List (Text × Text)) :
    t.insertMany (first ++ second) = (t.insertMany first).insertMany second := List.foldl_append

theorem updateMany_eq_insertMany (updates : List Update) :
    t.updateMany updates = t.insertMany (updates.flatMap Update.writes) := by
  induction updates generalizing t with
  | nil => rfl
  | cons u rest ih =>
    have hc : t.updateMany (u :: rest) = (u.apply t).updateMany rest := rfl
    rw [hc, ih, u.apply_eq_insertMany, List.flatMap_cons, insertMany_append]

theorem updateMany_ofList (entries : List (Text × Text)) (updates : List Update) :
    (ofList entries).updateMany updates = ofList (entries ++ updates.flatMap Update.writes) := by
  rw [updateMany_eq_insertMany, ofList, ← insertMany_append, ofList]

theorem pairwise_utf8 : t.entries.Pairwise fun a b => Text.utf8 a.1 < Text.utf8 b.1 :=
  t.sorted.imp Text.utf8_lt_utf8

theorem mem_entries_iff (name value : Text) :
    (name, value) ∈ t.entries ↔ t.get? name = some value :=
  (lookup_eq_some_iff_mem t.nodup_names).symm

theorem mem_names_ofList (entries : List (Text × Text)) (name : Text) :
    name ∈ (ofList entries).entries.map Prod.fst ↔ name ∈ entries.map Prod.fst := by
  rw [← not_iff_not, ← lookup_reverse_eq_none_iff, ← lookup_reverse_eq_none_iff,
    lookup_reverse (nodup_names _), ← get?_ofList]
  rfl

theorem size_ofList (entries : List (Text × Text)) :
    (ofList entries).size = (entries.map Prod.fst).toFinset.card := by
  rw [← List.toFinset.ext (mem_names_ofList entries), List.toFinset_card_of_nodup (nodup_names _),
    List.length_map, size]

end Tags

theorem Scope.get?_foldl_set (base : Tags) (writes : List (Text × Text)) (name value : Text) :
    (writes.foldl (fun s e => s.set e.1 e.2) (Scope.mk base .empty)).get? name = some value ↔
      LastWrite writes name value ∨
        name ∉ writes.map Prod.fst ∧ base.get? name = some value := by
  rw [foldl_set, Scope.get?, Option.or_eq_some_iff, ← Tags.ofList, Tags.get?_ofList,
    lookup_reverse_eq_some_iff, lookup_reverse_eq_none_iff]

/-- After any updates of a collected mapping, the empty one among them, its names stand in strictly
increasing order of their bytes, and with each of them there is the value that was written last. In
front of a mapping a scope shows what was set in it last, and the mapping stays as it is. -/
theorem Tags.updateMany_sortedMap (entries : List (Text × Text)) (updates : List Update) :
    let t := (ofList entries).updateMany updates
    let writes := entries ++ updates.flatMap Update.writes
    t.entries.Pairwise (fun a b => Text.utf8 a.1 < Text.utf8 b.1) ∧
      (∀ name value, (name, value) ∈ t.entries ↔ t.get? name = some value) ∧
      (∀ name value, t.get? name = some value ↔ LastWrite writes name value) ∧
      (∀ name, t.get? name = none ↔ name ∉ writes.map Prod.fst) ∧
      t.size = (writes.map Prod.fst).toFinset.card ∧
      ∀ (base : Tags) (sets : List (Text × Text)),
        let s := sets.foldl (fun s e => s.set e.1 e.2) (Scope.mk base .empty)
        s.base = base ∧
          ∀ name value, s.get? name = some value ↔
            LastWrite sets name value ∨
              name ∉ sets.map Prod.fst ∧ base.get? name = some value := by
  intro t writes
  have ht : t = ofList writes := updateMany_ofList entries updates
  refine ⟨t.pairwise_utf8, t.mem_entries_iff, fun name value => ?_, fun name => ?_, ?_,
    fun base sets => ⟨by rw [foldl_set], Scope.get?_foldl_set base sets⟩⟩
  · rw [ht, get?_ofList, lookup_reverse_eq_some_iff]
  · rw [ht, get?_ofList, lookup_reverse_eq_none_iff]
  · rw [ht, size_ofList]

example : ((Tags.ofList [(['😀'], ['a'])]).updateMany
      [.insert ['\uffff'] ['b'], .merge (.ofList [(['😀'], ['c'])])]).entries =
    [(['\uffff'], ['b']), (['😀'], ['c'])] := by decide

end RasterText
