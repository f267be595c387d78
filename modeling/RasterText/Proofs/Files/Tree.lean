import Mathlib.Data.List.Basic
import Mathlib.Tactic.SplitIfs
import RasterText.Files.Tree
set_option autoImplicit false

namespace RasterText

/-- What stands at a place of a tree. A directory is told apart from what is in it. -/
inductive Content where
  | file (bytes : Octets)
  | directory
  deriving DecidableEq

namespace FileNode

def content : FileNode → Content
  | file bytes => .file bytes
  | directory _ => .directory

theorem lookup_setEntry (name : Text) (node : FileNode) (entries : List (Text × FileNode))
    (key : Text) :
    (setEntry name node entries).lookup key =
      if key = name then some node else entries.lookup key := by
  induction entries with
  | nil => by_cases h : key = name <;> simp [setEntry, List.lookup_cons, h, beq_false_of_ne]
  | cons e rest ih =>
    obtain ⟨n, v⟩ := e
    by_cases hn : n = name
    · subst hn
      by_cases h : key = n <;> simp [setEntry, List.lookup_cons, h, beq_false_of_ne]
    · by_cases h : key = n
      · subst h
        simp [setEntry, hn]
      · simp [setEntry, List.lookup_cons, hn, h, beq_false_of_ne, ih]

theorem at?_cons (name : Text) (names : List Text) (entries : List (Text × FileNode)) :
    (directory entries).at? (name :: names) = (entries.lookup name).bind (at? names) := by
  rw [at?]
  cases entries.lookup name <;> rfl

theorem at?_append (way names : List Text) (node : FileNode) :
    node.at? (way ++ names) = (node.at? way).bind (at? names) := by
  induction way generalizing node with
  | nil => rfl
  | cons name way ih =>
    cases node with
    | file bytes => rfl
    | directory entries =>
      rw [List.cons_append, at?_cons, at?_cons, Option.bind_assoc]
      exact congrArg _ (funext ih)

theorem content_at?_put {way : List Text} {name : Text} {root : FileNode}
    {entries : List (Text × FileNode)} (h : root.at? way = some (directory entries))
    (hd : ((entries.lookup name).map isDirectory).getD false = false) (bytes : Octets)
    (names : List Text) :
    ((root.put (way ++ [name]) (file bytes)).at? names).map content =
      if names = way ++ [name] then some (.file bytes) else (root.at? names).map content := by
  induction way generalizing root names with
  | nil =>
    cases h
    cases names with
    | nil => rfl
    | cons key rest =>
      rw [List.nil_append, put, put, at?_cons, at?_cons, lookup_setEntry]
      by_cases hk : key = name
      · subst hk
        rw [if_pos rfl, Option.bind_some]
        cases rest with
        | nil => rw [if_pos rfl]; rfl
        | cons k rest =>
          -- there is nothing below a file, neither the new one nor the one that it replaces
          rw [if_neg (by simp)]
          cases hl : entries.lookup key with
          | none => rfl
          | some old =>
            rw [hl] at hd
            cases old with
            | file _ => rfl
            | directory _ => cases hd
      · rw [if_neg hk, if_neg (by simp [hk])]
  | cons w way ih =>
    cases root with
    | file _ => cases h
    | directory es =>
      rw [at?_cons] at h
      obtain ⟨node, hl, hn⟩ := Option.bind_eq_some_iff.1 h
      rw [List.cons_append, put, hl, Option.getD_some]
      cases names with
      | nil => rfl
      | cons key rest =>
        rw [at?_cons, at?_cons, lookup_setEntry]
        by_cases hk : key = w
        · subst hk
          rw [if_pos rfl, hl, Option.bind_some, Option.bind_some, ih hn]
          simp
        · rw [if_neg hk, if_neg (by simp [hk])]

end FileNode

namespace FileTree

variable {t after : FileTree} {position : List Text}

def content? (t : FileTree) (place : List Text) : Option Content :=
  (t.root.at? place).map FileNode.content

theorem content?_eq_directory {place : List Text} :
    t.content? place = some .directory ↔
      ∃ entries, t.root.at? place = some (.directory entries) := by
  rw [content?]
  cases t.root.at? place with
  | none => simp
  | some node => cases node <;> simp [FileNode.content]

theorem content?_eq_file {place : List Text} {bytes : Octets} :
    t.content? place = some (.file bytes) ↔ t.root.at? place = some (.file bytes) := by
  rw [content?]
  cases t.root.at? place with
  | none => simp
  | some node => cases node <;> simp [FileNode.content]

theorem walk_cons (h : t.content? position.reverse = some .directory) (name : Text)
    (names : List Text) :
    t.walk position (name :: names) =
      if name = ['.'] then t.walk position names
      else if name = ['.', '.'] then t.walk position.tail names
      else if nameLimit < Text.byteSize name then .error .nameTooLong
      else if (t.content? (position.reverse ++ [name])).isSome then t.walk (name :: position) names
      else .error .notFound := by
  obtain ⟨entries, he⟩ := content?_eq_directory.1 h
  have hl : (t.content? (position.reverse ++ [name])).isSome = (entries.lookup name).isSome := by
    rw [content?, FileNode.at?_append, he, Option.bind_some, FileNode.at?_cons]
    cases entries.lookup name <;> rfl
  rw [walk, he, hl]

theorem content?_of_walk_cons {name : Text} {names place : List Text}
    (h : t.walk position (name :: names) = .ok place) :
    t.content? position.reverse = some .directory := by
  rw [walk] at h
  split at h
  · cases h
  · cases h
  · next entries he => exact content?_eq_directory.2 ⟨entries, he⟩

theorem walk_append {front place : List Text} (h : t.walk position front = .ok place)
    (back : List Text) : t.walk position (front ++ back) = t.walk place back := by
  induction front generalizing position with
  | nil =>
    cases h
    rfl
  | cons name front ih =>
    have hd := content?_of_walk_cons h
    rw [walk_cons hd] at h
    rw [List.cons_append, walk_cons hd]
    split_ifs at h with h1 h2 h3 h4
    · rw [if_pos h1, ih h]
    · rw [if_neg h1, if_pos h2, ih h]
    · rw [if_neg h1, if_neg h2, if_neg h3, if_pos h4, ih h]

theorem walk_of_content? (hd : ∀ place, t.content? place = some .directory →
      after.content? place = some .directory)
    (hs : ∀ place, (t.content? place).isSome = true → (after.content? place).isSome = true)
    {names place : List Text} (h : t.walk position names = .ok place) :
    after.walk position names = .ok place := by
  induction names generalizing position with
  | nil => exact h
  | cons name names ih =>
    have hp := content?_of_walk_cons h
    rw [walk_cons hp] at h
    rw [walk_cons (hd _ hp)]
    split_ifs at h with h1 h2 h3 h4
    · rw [if_pos h1, ih h]
    · rw [if_neg h1, if_pos h2, ih h]
    · rw [if_neg h1, if_neg h2, if_neg h3, if_pos (hs _ h4), ih h]

theorem write_eq_ok {path : Text} {bytes : Octets} (h : t.write path bytes = .ok after) :
    checkPath path = .ok () ∧ endsInSlash path = false ∧ ∃ parent name entries,
      namesOf path = (namesOf path).dropLast ++ [name] ∧
      t.walk (t.startOf path) (namesOf path).dropLast = .ok parent ∧
      t.root.at? parent.reverse = some (.directory entries) ∧
      name ≠ ['.'] ∧ name ≠ ['.', '.'] ∧ ¬nameLimit < Text.byteSize name ∧
      ((entries.lookup name).map FileNode.isDirectory).getD false = false ∧
      after = { t with root := t.root.put (parent.reverse ++ [name]) (.file bytes) } := by
  simp only [write, bind, Except.bind] at h
  cases hc : checkPath path with
  | error fault => simp [hc] at h
  | ok u =>
    cases hw : t.walk (t.startOf path) (namesOf path).dropLast with
    | error fault => simp [hc, hw] at h
    | ok parent =>
      simp only [hc, hw] at h
      split at h
      · next entries he =>
        split at h
        · cases h
        · next name hn =>
          split_ifs at h with h1 h2 h3
          cases h
          obtain ⟨hs, hdot, hdots⟩ :
              endsInSlash path = false ∧ name ≠ ['.'] ∧ name ≠ ['.', '.'] := by
            simpa only [not_or, Bool.not_eq_true] using h1
          exact ⟨rfl, hs, parent, name, entries, (List.dropLast_append_getLast? name hn).symm, rfl,
            he, hdot, hdots, h2, by simpa using h3, rfl⟩
      · cases h
      · cases h

/-- Whether `after` is `t` with the bytes in the file at the end of the path, and nothing else has
changed. -/
structure Writes (t : FileTree) (path : Text) (bytes : Octets) (after : FileTree) : Prop where
  read_eq : after.read path = .ok bytes
  working_eq : after.working = t.working
  exists_place : ∃ place, after.walk (after.startOf path) (namesOf path) = .ok place.reverse ∧
    t.content? place ≠ some .directory ∧
    ∀ other, after.content? other = if other = place then some (.file bytes) else t.content? other

theorem writes_of_write {path : Text} {bytes : Octets} (h : t.write path bytes = .ok after) :
    t.Writes path bytes after := by
  obtain ⟨hc, hs, parent, name, entries, hnames, hw, he, hdot, hdots, hl, hd, rfl⟩ := write_eq_ok h
  let place := parent.reverse ++ [name]
  let after : FileTree := { t with root := t.root.put place (.file bytes) }
  have hcontent (other : List Text) : after.content? other =
      if other = place then some (.file bytes) else t.content? other :=
    FileNode.content_at?_put he hd bytes other
  have hplace : t.content? place ≠ some .directory := by
    intro hp
    obtain ⟨inner, hi⟩ := content?_eq_directory.1 hp
    rw [FileNode.at?_append, he, Option.bind_some, FileNode.at?_cons, Option.bind_eq_some_iff] at hi
    obtain ⟨node, hn, hi⟩ := hi
    rw [hn, show node = .directory inner from Option.some.inj hi] at hd
    cases hd
  have hdirectory (other : List Text) (ho : t.content? other = some .directory) :
      after.content? other = some .directory := by
    have hne : other ≠ place := fun heq => hplace (heq ▸ ho)
    rw [hcontent, if_neg hne, ho]
  have hsome (other : List Text) (ho : (t.content? other).isSome = true) :
      (after.content? other).isSome = true := by
    rw [hcontent]
    split
    · rfl
    · exact ho
  have hparent := hdirectory _ (content?_eq_directory.2 ⟨entries, he⟩)
  have hstart : after.startOf path = t.startOf path := rfl
  have hwalk : after.walk (after.startOf path) (namesOf path) = .ok (name :: parent) := by
    rw [hstart, hnames, walk_append (walk_of_content? hdirectory hsome hw), walk_cons hparent,
      if_neg hdot, if_neg hdots, if_neg hl, hcontent, if_pos rfl]
    rfl
  have hfile : after.root.at? (name :: parent).reverse = some (.file bytes) := by
    rw [List.reverse_cons, ← content?_eq_file, hcontent, if_pos rfl]
  refine ⟨?_, rfl, place, ?_, hplace, hcontent⟩
  · change after.read path = .ok bytes
    simp only [read, hc, hwalk, hfile, hs, bind, Except.bind]
    rfl
  · rw [hwalk, List.reverse_concat, List.reverse_reverse]

theorem run_write (t : FileTree) (path : Text) (bytes : Octets) :
    (FileAccess.write path bytes : StateM FileTree (Except Fault Unit)).run t =
      match t.write path bytes with
      | .ok after => (.ok (), after)
      | .error fault => (.error fault, t) := by
  have hr : (FileAccess.write path bytes : StateM FileTree (Except Fault Unit)).run t =
      (match t.write path bytes with
      | .ok after => (do set after; return .ok ())
      | .error fault => return .error fault : StateM FileTree (Except Fault Unit)).run t := rfl
  rw [hr]
  cases t.write path bytes <;> rfl

end FileTree

end RasterText
