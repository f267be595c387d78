import Mathlib.Data.List.TakeWhile
import RasterText.Items.Loading
import RasterText.Proofs.Text.Utf8
set_option autoImplicit false

namespace RasterText

theorem exists_last_of_mem {α : Type} {a : α} {l : List α} (h : a ∈ l) :
    ∃ before after, l = before ++ a :: after ∧ a ∉ after := by
  obtain ⟨after, before, hl, hn⟩ := List.eq_append_cons_of_mem (List.mem_reverse.2 h)
  refine ⟨before.reverse, after.reverse, ?_, by simpa using hn⟩
  rw [← List.reverse_reverse l, hl]
  simp

section Split

variable {α : Type} [DecidableEq α]

theorem splitOn_ne_nil (separator : α) (l : List α) : splitOn separator l ≠ [] := by
  cases l with
  | nil => simp [splitOn]
  | cons a rest =>
    rw [splitOn]
    split
    · simp
    · split <;> simp

theorem splitOn_append {separator : α} {front : List α} (h : separator ∉ front) (rest : List α) :
    splitOn separator (front ++ rest) =
      (splitOn separator rest).modifyHead (front ++ ·) := by
  induction front with
  | nil =>
    rw [List.nil_append]
    cases splitOn separator rest <;> rfl
  | cons a front ih =>
    rw [List.mem_cons, not_or] at h
    rw [List.cons_append, splitOn, if_neg (Ne.symm h.1), ih h.2]
    cases hs : splitOn separator rest with
    | nil => exact absurd hs (splitOn_ne_nil separator rest)
    | cons piece pieces => rfl

theorem splitExtension_of_not_mem {dot : α} {name : List α} (h : dot ∉ name) :
    splitExtension dot name = (name, none) := by
  have ht : name.reverse.takeWhile (fun a => !(a == dot)) = name.reverse :=
    List.takeWhile_eq_self_iff.2 fun a ha => by
      have hne : a ≠ dot := fun heq => h (heq ▸ List.mem_reverse.1 ha)
      simpa using hne
  rw [splitExtension, ht]
  simp

theorem splitExtension_append {dot : α} {after : List α} (h : dot ∉ after) (before : List α) :
    splitExtension dot (before ++ dot :: after) =
      if before = [] then (before ++ dot :: after, none) else (before, some after) := by
  have ht : (before ++ dot :: after).reverse.takeWhile (fun a => !(a == dot)) =
      after.reverse := by
    rw [List.reverse_append, List.reverse_cons, List.append_assoc, List.takeWhile_append_of_pos]
    · simp
    · intro a ha
      have hne : a ≠ dot := fun heq => h (heq ▸ List.mem_reverse.1 ha)
      simpa using hne
  have hb : ((before ++ dot :: after).take
      ((before ++ dot :: after).length - after.length)).dropLast = before := by
    have hl : (before ++ dot :: after).length - after.length = (before ++ [dot]).length := by
      simp only [List.length_append, List.length_cons, List.length_nil]
      omega
    rw [hl, List.append_cons before dot after, List.take_left, List.dropLast_concat]
  have hn : after.length ≠ (before ++ dot :: after).length := by
    simp only [List.length_append, List.length_cons]
    omega
  simp only [splitExtension, ht, List.reverse_reverse, hb, hn, false_or]

end Split

section Utf8

theorem utf8_eq_nil {n : Text} : Text.utf8 n = [] ↔ n = [] := Text.utf8_inj (t := [])

theorem utf8_eq_dot {n : Text} : Text.utf8 n = [0x2e] ↔ n = ['.'] := Text.utf8_inj (t := ['.'])

theorem utf8_eq_dots {n : Text} : Text.utf8 n = [0x2e, 0x2e] ↔ n = ['.', '.'] :=
  Text.utf8_inj (t := ['.', '.'])

theorem splitOn_utf8 {a : Char} (ha : a.toNat < 0x80) (t : Text) :
    splitOn (UInt8.ofNat a.toNat) (Text.utf8 t) = (splitOn a t).map Text.utf8 := by
  induction t with
  | nil => rfl
  | cons c rest ih =>
    by_cases hc : c = a
    · subst hc
      rw [Text.utf8_cons_of_lt ha, splitOn, splitOn, if_pos rfl, if_pos rfl, ih]
      rfl
    · have hn : UInt8.ofNat a.toNat ∉ String.utf8EncodeChar c := fun h =>
        hc ((mem_utf8EncodeChar_of_lt ha).1 h).symm
      rw [Text.utf8_cons, splitOn_append hn, ih, splitOn, if_neg hc]
      cases hs : splitOn a rest with
      | nil => exact absurd hs (splitOn_ne_nil a rest)
      | cons piece pieces => rfl

theorem splitExtension_utf8 {a : Char} (ha : a.toNat < 0x80) (name : Text) :
    splitExtension (UInt8.ofNat a.toNat) (Text.utf8 name) =
      (Text.utf8 (splitExtension a name).1, (splitExtension a name).2.map Text.utf8) := by
  by_cases h : a ∈ name
  · obtain ⟨before, after, rfl, hn⟩ := exists_last_of_mem h
    rw [splitExtension_append hn, Text.utf8_append, Text.utf8_cons_of_lt ha,
      splitExtension_append (mt (Text.mem_utf8_of_lt ha).1 hn)]
    by_cases hb : before = []
    · rw [hb, if_pos rfl, if_pos Text.utf8_nil, Text.utf8_append, Text.utf8_cons_of_lt ha]
      rfl
    · rw [if_neg hb, if_neg fun he => hb (utf8_eq_nil.1 he)]
      rfl
  · rw [splitExtension_of_not_mem h, splitExtension_of_not_mem (mt (Text.mem_utf8_of_lt ha).1 h)]
    rfl

theorem pathNames_utf8 (path : Text) :
    pathNames 0x2e 0x2f (Text.utf8 path) = (pathNames '.' '/' path).map Text.utf8 := by
  have hs : splitOn 0x2f (Text.utf8 path) = (splitOn '/' path).map Text.utf8 :=
    splitOn_utf8 (a := '/') (by decide) path
  rw [pathNames, hs, pathNames]
  cases splitOn '/' path with
  | nil => rfl
  | cons first rest =>
    have hfilter : (rest.map Text.utf8).filter (fun n => !(n == []) && !(n == [0x2e])) =
        (rest.filter fun n => !(n == []) && !(n == ['.'])).map Text.utf8 := by
      rw [List.filter_map]
      refine congrArg _ (List.filter_congr fun n _ => ?_)
      rw [Function.comp_apply, Bool.eq_iff_iff]
      simp only [Bool.and_eq_true, Bool.not_eq_true', beq_eq_false_iff_ne, ne_eq, utf8_eq_nil,
        utf8_eq_dot]
    simp only [List.map_cons, List.map_append, hfilter, utf8_eq_nil]
    split <;> rfl

theorem lastName?_utf8 (path : Text) :
    lastName? 0x2e 0x2f (Text.utf8 path) = (lastName? '.' '/' path).map Text.utf8 := by
  rw [lastName?, lastName?, pathNames_utf8, List.getLast?_map]
  cases (pathNames '.' '/' path).getLast? with
  | none => rfl
  | some name =>
    simp only [Option.map_some, utf8_eq_dot, utf8_eq_dots]
    split <;> rfl

end Utf8

theorem keyOfFile?_eq (path : Text) : keyOfFile? path = (stemOf? path).map keyOfName := by
  rw [keyOfFile?, keyOfPath?, lastName?_utf8, stemOf?]
  cases lastName? '.' '/' path with
  | none => rfl
  | some name =>
    have hs : splitExtension 0x2e (Text.utf8 name) = _ :=
      splitExtension_utf8 (a := '.') (by decide) name
    rw [Option.map_some, Option.bind_some, hs, Text.ofUtf8?_utf8]
    rfl

end RasterText
