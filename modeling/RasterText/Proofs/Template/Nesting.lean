import Mathlib
import RasterText.Proofs.Template.Parsing
import RasterText.Proofs.Template.Tokenization
set_option autoImplicit false

/-!
Blocks that are opened again inside themselves. Which block a start marker opens is told on the
tokens, level by level, and so is what lies inside it. The parser reads every start marker once,
with exactly the blocks around it open, and reports those that lie inside a block of their name.
-/

namespace RasterText

def EndFree (name : Text) (l : List Lexeme) : Prop := ∀ x ∈ l, x.token ≠ .blockEnd name

def Lexeme.OpensNone (x : Lexeme) (rest : List Lexeme) : Prop :=
  ∀ name, x.token = .blockStart name → EndFree name rest

/-- The blocks in a level of tokens, each with the name and the place of its start marker and with
what stands between its two markers. A start marker goes with the first end marker of its name, and
what stands between them is a level of its own. -/
inductive Matched : List Lexeme → Text × Span → List Lexeme → Prop
  | opens {name : Text} {p stop : Span} {body after : List Lexeme} (h : EndFree name body) :
      Matched (⟨.blockStart name, p⟩ :: (body ++ ⟨.blockEnd name, stop⟩ :: after)) (name, p) body
  | inside {name : Text} {p stop : Span} {body after inner : List Lexeme} {e : Text × Span}
      (h : EndFree name body) (hm : Matched body e inner) :
      Matched (⟨.blockStart name, p⟩ :: (body ++ ⟨.blockEnd name, stop⟩ :: after)) e inner
  | behind {name : Text} {p stop : Span} {body after inner : List Lexeme} {e : Text × Span}
      (h : EndFree name body) (hm : Matched after e inner) :
      Matched (⟨.blockStart name, p⟩ :: (body ++ ⟨.blockEnd name, stop⟩ :: after)) e inner
  | past {x : Lexeme} {rest inner : List Lexeme} {e : Text × Span} (h : x.OpensNone rest)
      (hm : Matched rest e inner) : Matched (x :: rest) e inner

/-- The start marker at `inner` lies inside the block of its name that is opened at `outer`. -/
def SelfNested (l : List Lexeme) (name : Text) (outer inner : Span) : Prop :=
  ∃ body, Matched l (name, outer) body ∧ ⟨.blockStart name, inner⟩ ∈ body

section Levels

variable {name : Text} {p stop : Span} {body after rest inner : List Lexeme} {x : Lexeme}
variable {e : Text × Span}

@[simp] theorem endFree_cons :
    EndFree name (x :: rest) ↔ x.token ≠ .blockEnd name ∧ EndFree name rest := by
  simp [EndFree]

theorem EndFree.sublist (h : EndFree name rest) (hs : List.Sublist body rest) : EndFree name body :=
  fun x hx => h x (hs.subset hx)

theorem not_endFree_append : ¬EndFree name (body ++ ⟨.blockEnd name, stop⟩ :: after) :=
  fun h => h ⟨.blockEnd name, stop⟩ (by simp) rfl

theorem splitAtEnd_append (h : EndFree name body) :
    splitAtEnd name (body ++ ⟨.blockEnd name, stop⟩ :: after) = some (body, stop, after) := by
  induction body with
  | nil => simp [splitAtEnd]
  | cons x body ih =>
    obtain ⟨hx, hb⟩ := endFree_cons.1 h
    simp [splitAtEnd, hx, ih hb]

theorem splitAtEnd_of_endFree (h : EndFree name rest) : splitAtEnd name rest = none := by
  induction rest with
  | nil => rfl
  | cons x rest ih =>
    obtain ⟨hx, hr⟩ := endFree_cons.1 h
    simp [splitAtEnd, hx, ih hr]

theorem opensNone_or_block (x : Lexeme) (rest : List Lexeme) :
    x.OpensNone rest ∨ ∃ name p body stop after, x = ⟨.blockStart name, p⟩ ∧
      rest = body ++ ⟨.blockEnd name, stop⟩ :: after ∧ EndFree name body := by
  obtain ⟨token, p⟩ := x
  cases token with
  | blockStart name =>
    cases hs : splitAtEnd name rest with
    | none =>
      refine .inl fun other ho => ?_
      cases ho
      exact splitAtEnd_eq_none hs
    | some parts =>
      obtain ⟨body, stop, after⟩ := parts
      obtain ⟨rfl, hb⟩ := splitAtEnd_eq_some hs
      exact .inr ⟨name, p, body, stop, after, rfl, rfl, hb⟩
  | _ => exact .inl fun _ ho => by cases ho

theorem level_induction {P : List (Text × Span) → List Lexeme → Prop}
    (nil : ∀ enclosing, P enclosing [])
    (past : ∀ enclosing x rest, x.OpensNone rest → P enclosing rest → P enclosing (x :: rest))
    (block : ∀ enclosing name p body stop after, EndFree name body →
      P (enclosing ++ [(name, p)]) body → P enclosing after →
      P enclosing (⟨.blockStart name, p⟩ :: (body ++ ⟨.blockEnd name, stop⟩ :: after)))
    (enclosing : List (Text × Span)) (l : List Lexeme) : P enclosing l := by
  cases l with
  | nil => exact nil enclosing
  | cons x rest =>
    rcases opensNone_or_block x rest with h | ⟨name, p, body, stop, after, hx, hr, h⟩
    · exact past enclosing x rest h (level_induction nil past block enclosing rest)
    · have hb : body.length < rest.length := by simp [hr]
      have ha : after.length < rest.length := by simp [hr]; omega
      have ihb := level_induction nil past block (enclosing ++ [(name, p)]) body
      have iha := level_induction nil past block enclosing after
      rw [hx, hr]
      exact block enclosing name p body stop after h ihb iha
termination_by l.length
decreasing_by all_goals simp only [List.length_cons]; omega

theorem not_matched_nil : ¬Matched [] e inner := fun h => by cases h

theorem matched_past (h : x.OpensNone rest) :
    Matched (x :: rest) e inner ↔ Matched rest e inner := by
  refine ⟨fun hm => ?_, .past h⟩
  cases hm with
  | opens _ | inside _ _ | behind _ _ => exact absurd (h _ rfl) not_endFree_append
  | past _ hm => exact hm

theorem matched_block (h : EndFree name body) :
    Matched (⟨.blockStart name, p⟩ :: (body ++ ⟨.blockEnd name, stop⟩ :: after)) e inner ↔
      (e = (name, p) ∧ inner = body) ∨ Matched body e inner ∨ Matched after e inner := by
  constructor
  · intro hm
    generalize hr : body ++ ⟨.blockEnd name, stop⟩ :: after = rest at hm
    have hs : splitAtEnd name rest = some (body, stop, after) := by
      rw [← hr]
      exact splitAtEnd_append h
    cases hm with
    | opens h' =>
      rw [splitAtEnd_append h'] at hs
      cases hs
      exact .inl ⟨rfl, rfl⟩
    | inside h' hm =>
      rw [splitAtEnd_append h'] at hs
      cases hs
      exact .inr (.inl hm)
    | behind h' hm =>
      rw [splitAtEnd_append h'] at hs
      cases hs
      exact .inr (.inr hm)
    | past h' _ =>
      rw [splitAtEnd_of_endFree (h' name rfl)] at hs
      cases hs
  · rintro (⟨rfl, rfl⟩ | hm | hm)
    · exact .opens h
    · exact .inside h hm
    · exact .behind h hm

theorem nodup_block
    (h : (⟨.blockStart name, p⟩ :: (body ++ ⟨.blockEnd name, stop⟩ :: after) : List Lexeme).Nodup) :
    body.Nodup ∧ after.Nodup ∧ ⟨.blockStart name, p⟩ ∉ body ∧ ⟨.blockStart name, p⟩ ∉ after ∧
      ∀ x ∈ body, x ∉ after := by
  simp only [List.nodup_cons, List.nodup_append, List.mem_append, List.mem_cons, not_or] at h
  obtain ⟨⟨h1, -, h2⟩, hb, ⟨-, ha⟩, hd⟩ := h
  exact ⟨hb, ha, h1, h2, fun x hx hy => hd x hx x (.inr hy) rfl⟩

namespace Matched

variable {l : List Lexeme}

theorem endFree (hm : Matched l e inner) : EndFree e.1 inner := by
  induction hm with
  | opens h => exact h
  | inside _ _ ih | behind _ _ ih | past _ _ ih => exact ih

theorem sublist (hm : Matched l e inner) : ∃ stop, List.Sublist
    (⟨.blockStart e.1, e.2⟩ :: (inner ++ [⟨.blockEnd e.1, stop⟩])) l := by
  induction hm with
  | @opens name p stop body after _ => exact ⟨stop, by simp⟩
  | inside _ _ ih =>
    obtain ⟨stop, ih⟩ := ih
    exact ⟨stop, .cons _ (ih.trans (List.sublist_append_left _ _))⟩
  | behind _ _ ih =>
    obtain ⟨stop, ih⟩ := ih
    exact ⟨stop, .cons _ ((ih.cons _).trans (List.sublist_append_right _ _))⟩
  | past _ _ ih =>
    obtain ⟨stop, ih⟩ := ih
    exact ⟨stop, ih.cons _⟩

theorem start_mem (hm : Matched l e inner) : ⟨.blockStart e.1, e.2⟩ ∈ l := by
  obtain ⟨stop, hs⟩ := hm.sublist
  exact hs.subset (by simp)

theorem mem (hm : Matched l e inner) (hx : x ∈ inner) : x ∈ l := by
  obtain ⟨stop, hs⟩ := hm.sublist
  exact hs.subset (by simp [hx])

theorem not_endFree_level (hm : Matched l e inner) : ¬EndFree e.1 l := by
  obtain ⟨stop, hs⟩ := hm.sublist
  exact fun h => h ⟨.blockEnd e.1, stop⟩ (hs.subset (by simp)) rfl

theorem nested {outer : List Lexeme} {o : Text × Span} (hl : l.Nodup) (ho : Matched l o outer)
    (he : ⟨.blockStart e.1, e.2⟩ ∈ outer) (hm : Matched l e inner) : Matched outer e inner := by
  induction ho with
  | opens h =>
    obtain ⟨-, -, hb, -, hd⟩ := nodup_block hl
    rcases (matched_block h).1 hm with ⟨rfl, -⟩ | hm | hm
    · exact absurd he hb
    · exact hm
    · exact absurd hm.start_mem (hd _ he)
  | inside h ho ih =>
    obtain ⟨hn, -, hb, -, hd⟩ := nodup_block hl
    rcases (matched_block h).1 hm with ⟨rfl, -⟩ | hm | hm
    · exact absurd (ho.mem he) hb
    · exact ih hn he hm
    · exact absurd hm.start_mem (hd _ (ho.mem he))
  | behind h ho ih =>
    obtain ⟨-, hn, -, ha, hd⟩ := nodup_block hl
    rcases (matched_block h).1 hm with ⟨rfl, -⟩ | hm | hm
    · exact absurd (ho.mem he) ha
    · exact absurd (ho.mem he) (hd _ hm.start_mem)
    · exact ih hn he hm
  | past h _ ih => exact ih (List.nodup_cons.1 hl).2 he ((matched_past h).1 hm)

end Matched

theorem SelfNested.not_matched {l : List Lexeme} {outer again : Span} (hl : l.Nodup)
    (h : SelfNested l name outer again) : ¬Matched l (name, again) inner := by
  obtain ⟨body, ho, he⟩ := h
  exact fun hm => (ho.nested hl he hm).not_endFree_level ho.endFree

end Levels

/-- A moment of the parser: the blocks that are open, and what is left of the level. -/
structure Moment where
  enclosing : List (Text × Span)
  rest : List Lexeme

/-- The moments in which the parser reads a level and the levels inside it. -/
def parseRun (enclosing : List (Text × Span)) : List Lexeme → List Moment
  | [] => [⟨enclosing, []⟩]
  | ⟨.blockStart name, p⟩ :: rest =>
    ⟨enclosing, ⟨.blockStart name, p⟩ :: rest⟩ ::
      match _h : splitAtEnd name rest with
      | some (body, _, after) =>
        parseRun (enclosing ++ [(name, p)]) body ++ parseRun enclosing after
      | none => parseRun enclosing rest
  | x :: rest => ⟨enclosing, x :: rest⟩ :: parseRun enclosing rest
termination_by l => l.length
decreasing_by
  all_goals simp_wf
  · have := length_of_splitAtEnd _h; omega
  · have := length_of_splitAtEnd _h; omega

def Lexeme.isStart (x : Lexeme) : Bool :=
  match x.token with
  | .blockStart _ => true
  | _ => false

def Lexeme.single : Lexeme → Node
  | ⟨.text value, p⟩ => .text value p
  | ⟨.tag name, p⟩ => .tag name p
  | ⟨.blockStart name, p⟩ => .unclosed name p
  | ⟨.blockEnd name, p⟩ => .strayEnd name p

def Moment.start? (m : Moment) : Option Lexeme := m.rest.head?.filter Lexeme.isStart

def Moment.faults (m : Moment) : List NestedBlock :=
  match m.rest with
  | ⟨.blockStart name, p⟩ :: _ => nestedIn m.enclosing name p
  | _ => []

section Run

variable {enclosing : List (Text × Span)} {x : Lexeme} {l rest body after : List Lexeme}
variable {name : Text} {p stop : Span} {e : Text × Span} {m : Moment}

theorem parseRun_past (h : x.OpensNone rest) :
    parseRun enclosing (x :: rest) = ⟨enclosing, x :: rest⟩ :: parseRun enclosing rest := by
  obtain ⟨token, p⟩ := x
  cases token with
  | blockStart name =>
    rw [parseRun]
    split
    · next hs => simp [splitAtEnd_of_endFree (h name rfl)] at hs
    · rfl
  | _ => rw [parseRun]; simp

theorem parseRun_block (h : EndFree name body) :
    parseRun enclosing (⟨.blockStart name, p⟩ :: (body ++ ⟨.blockEnd name, stop⟩ :: after)) =
      ⟨enclosing, ⟨.blockStart name, p⟩ :: (body ++ ⟨.blockEnd name, stop⟩ :: after)⟩ ::
        (parseRun (enclosing ++ [(name, p)]) body ++ parseRun enclosing after) := by
  rw [parseRun]
  split
  · next hs =>
    rw [splitAtEnd_append h] at hs
    cases hs
    rfl
  · next hs => simp [splitAtEnd_append h] at hs

theorem parseLevel_past (h : x.OpensNone rest) :
    parseLevel enclosing (x :: rest) = (x.single :: (parseLevel enclosing rest).1,
      Moment.faults ⟨enclosing, x :: rest⟩ ++ (parseLevel enclosing rest).2) := by
  obtain ⟨token, p⟩ := x
  cases token with
  | blockStart name =>
    rw [parseLevel]
    split
    · next hs => simp [splitAtEnd_of_endFree (h name rfl)] at hs
    · rfl
  | _ => rw [parseLevel]; rfl

theorem parseLevel_block (h : EndFree name body) :
    parseLevel enclosing (⟨.blockStart name, p⟩ :: (body ++ ⟨.blockEnd name, stop⟩ :: after)) =
      (.block name (trimBody (parseLevel (enclosing ++ [(name, p)]) body).1) ⟨p.start, stop.stop⟩ ::
          (parseLevel enclosing after).1,
        nestedIn enclosing name p ++ (parseLevel (enclosing ++ [(name, p)]) body).2 ++
          (parseLevel enclosing after).2) := by
  rw [parseLevel]
  split
  · next hs =>
    rw [splitAtEnd_append h] at hs
    cases hs
    rfl
  · next hs => simp [splitAtEnd_append h] at hs

theorem faults_parseLevel (enclosing : List (Text × Span)) (l : List Lexeme) :
    (parseLevel enclosing l).2 = (parseRun enclosing l).flatMap Moment.faults := by
  induction enclosing, l using level_induction with
  | nil enclosing => simp [parseLevel, parseRun, Moment.faults]
  | past enclosing x rest h ih =>
    rw [parseLevel_past h, parseRun_past h, List.flatMap_cons, ih]
  | block enclosing name p body stop after h ihb iha =>
    rw [parseLevel_block h, parseRun_block h, List.flatMap_cons, List.flatMap_append, ← ihb, ← iha,
      List.append_assoc]
    rfl

theorem starts_parseRun (enclosing : List (Text × Span)) (l : List Lexeme) :
    (parseRun enclosing l).filterMap Moment.start? = l.filter Lexeme.isStart := by
  induction enclosing, l using level_induction with
  | nil enclosing => simp [parseRun, Moment.start?]
  | past enclosing x rest h ih =>
    rw [parseRun_past h]
    by_cases hx : x.isStart <;> simp [Moment.start?, Option.filter_some, hx, ih]
  | block enclosing name p body stop after h ihb iha =>
    rw [parseRun_block h]
    simp [Moment.start?, Option.filter_some, Lexeme.isStart, List.filter_cons, ihb, iha]

theorem mem_of_mem_parseRun (hm : m ∈ parseRun enclosing l) (hx : x ∈ m.rest) : x ∈ l := by
  induction enclosing, l using level_induction with
  | nil enclosing =>
    obtain rfl : m = ⟨enclosing, []⟩ := by simpa [parseRun] using hm
    exact hx
  | past enclosing y rest h ih =>
    rw [parseRun_past h, List.mem_cons] at hm
    rcases hm with rfl | hm
    · exact hx
    · exact List.mem_cons_of_mem y (ih hm)
  | block enclosing name p body stop after h ihb iha =>
    rw [parseRun_block h, List.mem_cons, List.mem_append] at hm
    rcases hm with rfl | hm | hm
    · exact hx
    · simp [ihb hm]
    · simp [iha hm]

theorem mem_enclosing_iff (hl : l.Nodup) (hm : m ∈ parseRun enclosing l)
    (hx : m.rest.head? = some x) :
    e ∈ m.enclosing ↔ e ∈ enclosing ∨ ∃ body, Matched l e body ∧ x ∈ body := by
  have hmem : x ∈ m.rest := List.mem_of_mem_head? hx
  induction enclosing, l using level_induction with
  | nil enclosing =>
    obtain rfl : m = ⟨enclosing, []⟩ := by simpa [parseRun] using hm
    cases hx
  | past enclosing y rest h ih =>
    rw [List.nodup_cons] at hl
    rw [parseRun_past h, List.mem_cons] at hm
    simp only [matched_past h]
    rcases hm with rfl | hm
    · obtain rfl : y = x := by simpa using hx
      have hnone : ¬∃ body, Matched rest e body ∧ y ∈ body := fun ⟨_, hb, hy⟩ => hl.1 (hb.mem hy)
      simp [hnone]
    · exact ih hl.2 hm
  | block enclosing name p body stop after h ihb iha =>
    obtain ⟨hlb, hla, hb, ha, hd⟩ := nodup_block hl
    rw [parseRun_block h, List.mem_cons, List.mem_append] at hm
    simp only [matched_block h]
    rcases hm with rfl | hm | hm
    · obtain rfl : ⟨.blockStart name, p⟩ = x := by simpa using hx
      -- the start marker of a block lies in no block of its level, and so not in its own
      have hnone : ¬∃ inner, ((e = (name, p) ∧ inner = body) ∨ Matched body e inner ∨
          Matched after e inner) ∧ ⟨.blockStart name, p⟩ ∈ inner := by
        rintro ⟨inner, ⟨-, rfl⟩ | hi | hi, hp⟩
        · exact hb hp
        · exact hb (hi.mem hp)
        · exact ha (hi.mem hp)
      simp only [hnone, or_false]
    -- a token of the body lies in this block, and in no block behind it
    · have hxb := mem_of_mem_parseRun hm hmem
      have hnone : ∀ inner, Matched after e inner → x ∉ inner := fun _ hi hx =>
        hd x hxb (hi.mem hx)
      refine (ihb hlb hm).trans ?_
      grind
    -- a token behind the block lies neither in it nor in its body
    · have hxa := mem_of_mem_parseRun hm hmem
      have hnone : x ∉ body := fun hx => hd x hx hxa
      refine (iha hla hm).trans ?_
      grind [Matched.mem]

/-- The blocks that are open have different names, and none of them closes in the level. -/
structure Moment.Clear (m : Moment) : Prop where
  nodup : (m.enclosing.map Prod.fst).Nodup
  ends : ∀ e ∈ m.enclosing, EndFree e.1 m.rest

namespace Moment.Clear

theorem past (h : Clear ⟨enclosing, x :: rest⟩) : Clear ⟨enclosing, rest⟩ where
  nodup := h.nodup
  ends e he := (endFree_cons.1 (h.ends e he)).2

theorem behind (h : Clear ⟨enclosing, ⟨.blockStart name, p⟩ ::
    (body ++ ⟨.blockEnd name, stop⟩ :: after)⟩) : Clear ⟨enclosing, after⟩ where
  nodup := h.nodup
  ends e he := (h.ends e he).sublist (.cons _ (List.sublist_append_of_sublist_right (by simp)))

theorem inside (h : Clear ⟨enclosing, ⟨.blockStart name, p⟩ ::
    (body ++ ⟨.blockEnd name, stop⟩ :: after)⟩) (hb : EndFree name body) :
    Clear ⟨enclosing ++ [(name, p)], body⟩ where
  nodup := by
    -- an open block of this name would close at the end marker that the new block needs
    have hn : name ∉ enclosing.map Prod.fst := by
      intro hn
      obtain ⟨e, he, rfl⟩ := List.mem_map.1 hn
      exact not_endFree_append (endFree_cons.1 (h.ends e he)).2
    rw [List.map_append]
    exact h.nodup.append (by simp) (by simpa using hn)
  ends e he := by
    rcases List.mem_append.1 he with he | he
    · exact (h.ends e he).sublist (by simp)
    · obtain rfl : e = (name, p) := by simpa using he
      exact hb

theorem run (h : Clear ⟨enclosing, l⟩) (hm : m ∈ parseRun enclosing l) : m.Clear := by
  induction enclosing, l using level_induction with
  | nil enclosing =>
    obtain rfl : m = ⟨enclosing, []⟩ := by simpa [parseRun] using hm
    exact h
  | past enclosing x rest hx ih =>
    rw [parseRun_past hx, List.mem_cons] at hm
    rcases hm with rfl | hm
    · exact h
    · exact ih h.past hm
  | block enclosing name p body stop after hb ihb iha =>
    rw [parseRun_block hb, List.mem_cons, List.mem_append] at hm
    rcases hm with rfl | hm | hm
    · exact h
    · exact ihb (h.inside hb) hm
    · exact iha h.behind hm

end Moment.Clear

theorem find?_name (h : (enclosing.map Prod.fst).Nodup) :
    (enclosing.find? fun e => e.1 == name) = some e ↔ e ∈ enclosing ∧ e.1 = name := by
  induction enclosing with
  | nil => simp
  | cons first enclosing ih =>
    rw [List.map_cons, List.nodup_cons] at h
    have hne : ∀ e ∈ enclosing, e.1 ≠ first.1 := fun e he hn =>
      h.1 (hn ▸ List.mem_map_of_mem he)
    have ih := ih h.2
    grind

def NestedBlock.start (f : NestedBlock) : Lexeme := ⟨.blockStart f.name, f.inner⟩

theorem mem_nestedIn {f : NestedBlock} (h : (enclosing.map Prod.fst).Nodup) :
    f ∈ nestedIn enclosing name p ↔ f.start = ⟨.blockStart name, p⟩ ∧
      (f.name, f.outer) ∈ enclosing := by
  obtain ⟨again, outer, inner⟩ := f
  simp only [NestedBlock.start, Lexeme.mk.injEq, Token.blockStart.injEq, nestedIn]
  split
  · next other first hs =>
    have hf := (find?_name h).1 hs
    simp only [List.mem_singleton, NestedBlock.mk.injEq]
    constructor
    · rintro ⟨rfl, rfl, rfl⟩
      obtain ⟨he, rfl⟩ := hf
      exact ⟨⟨rfl, rfl⟩, he⟩
    · rintro ⟨⟨rfl, rfl⟩, he⟩
      rw [(find?_name h).2 ⟨he, rfl⟩] at hs
      cases hs
      exact ⟨rfl, rfl, rfl⟩
  · next hs =>
    have hno : ∀ e ∈ enclosing, e.1 ≠ name := by simpa using hs
    simp only [List.not_mem_nil, false_iff]
    rintro ⟨⟨rfl, -⟩, he⟩
    exact hno _ he rfl

theorem Moment.Clear.mem_faults {f : NestedBlock} (h : m.Clear) :
    f ∈ m.faults ↔ m.rest.head? = some f.start ∧ (f.name, f.outer) ∈ m.enclosing := by
  unfold Moment.faults
  split
  · next hr => rw [mem_nestedIn h.nodup, hr, List.head?_cons, Option.some.injEq, eq_comm]
  · next hr =>
    simp only [List.not_mem_nil, false_iff]
    rintro ⟨hx, -⟩
    obtain ⟨rest, hx⟩ := List.head?_eq_some_iff.1 hx
    exact hr _ _ _ hx

theorem Moment.faults_sublist (m : Moment) :
    List.Sublist (m.faults.map NestedBlock.start) m.start?.toList := by
  unfold Moment.faults
  split
  · next name p rest hr =>
    have hs : m.start? = some ⟨.blockStart name, p⟩ := by
      simp [Moment.start?, hr, Option.filter_some, Lexeme.isStart]
    rw [hs, nestedIn]
    split
    · simp [NestedBlock.start]
    · simp
  · simp

theorem faults_parseLevel_sublist (enclosing : List (Text × Span)) (l : List Lexeme) :
    List.Sublist ((parseLevel enclosing l).2.map NestedBlock.start) l := by
  have hs : List.Sublist ((parseLevel enclosing l).2.map NestedBlock.start)
      ((parseRun enclosing l).filterMap Moment.start?) := by
    rw [faults_parseLevel, List.map_flatMap, List.filterMap_eq_flatMap_toList]
    exact .flatMap_right _ fun m _ => m.faults_sublist
  rw [starts_parseRun] at hs
  exact hs.trans List.filter_sublist

theorem mem_faults_iff {f : NestedBlock} (hl : l.Nodup) :
    f ∈ (parseLevel [] l).2 ↔ SelfNested l f.name f.outer f.inner := by
  have hclear : ∀ m ∈ parseRun [] l, m.Clear := fun m hm =>
    Moment.Clear.run ⟨by simp, by simp⟩ hm
  rw [faults_parseLevel, List.mem_flatMap]
  constructor
  · rintro ⟨m, hm, hf⟩
    obtain ⟨hx, he⟩ := (hclear m hm).mem_faults.1 hf
    rcases (mem_enclosing_iff hl hm hx).1 he with he | hin
    · cases he
    · exact hin
  · rintro ⟨body, hb, hf⟩
    have hstart : f.start ∈ (parseRun [] l).filterMap Moment.start? := by
      rw [starts_parseRun]
      exact List.mem_filter.2 ⟨hb.mem hf, rfl⟩
    obtain ⟨m, hm, hs⟩ := List.mem_filterMap.1 hstart
    obtain ⟨hx, -⟩ := Option.filter_eq_some_iff.1 hs
    exact ⟨m, hm, (hclear m hm).mem_faults.2
      ⟨hx, (mem_enclosing_iff hl hm hx).2 (.inr ⟨body, hb, hf⟩)⟩⟩

end Run

mutual

/-- The name of every block at any depth, with the place where its start marker begins. -/
def Node.openings : Node → List (Text × Nat)
  | .block name body span => (name, span.start) :: openingsOf body
  | _ => []

def openingsOf : List Node → List (Text × Nat)
  | [] => []
  | node :: rest => node.openings ++ openingsOf rest

end

theorem openingsOf_trimBody (body : List Node) : openingsOf (trimBody body) = openingsOf body := by
  have h (nodes : List Node) : openingsOf (markerNodes nodes) = openingsOf nodes := by
    induction nodes with
    | nil => rfl
    | cons n rest ih =>
      cases n with
      | text value span => rw [markerNodes_cons_text rfl, ih]; rfl
      | _ => exact congrArg (_ ++ ·) ih
  rw [← h, markerNodes_trimBody, h]

theorem mem_openings_parseLevel {name : Text} {start : Nat} (enclosing : List (Text × Span))
    (l : List Lexeme) : (name, start) ∈ openingsOf (parseLevel enclosing l).1 ↔
      ∃ p body, Matched l (name, p) body ∧ p.start = start := by
  induction enclosing, l using level_induction with
  | nil enclosing => simp [parseLevel, openingsOf, not_matched_nil]
  | past enclosing x rest h ih =>
    have hx : x.single.openings = [] := by
      obtain ⟨token, p⟩ := x
      cases token <;> rfl
    simp [parseLevel_past h, openingsOf, hx, ih, matched_past h]
  | block enclosing other p body stop after h ihb iha =>
    simp only [parseLevel_block h, matched_block h, openingsOf, Node.openings, openingsOf_trimBody,
      List.cons_append, List.mem_cons, List.mem_append, ihb, iha, or_and_right, exists_or]
    refine or_congr ?_ .rfl
    simp [eq_comm]

theorem pairwise_lex (s : Text) : (lex s).Pairwise fun x y =>
    x.span.start < y.span.start ∧ x.span.stop ≤ y.span.start :=
  (leftmostFrom_lex s).tiles.pairwise_lexemes

theorem nodup_starts (s : Text) : ((lex s).map fun x => x.span.start).Nodup :=
  List.pairwise_map.2 ((pairwise_lex s).imp fun h => h.1.ne)

theorem nodup_lex (s : Text) : (lex s).Nodup := .of_map _ (nodup_starts s)

theorem pairwise_faults (s : Text) :
    (parseLevel [] (lex s)).2.Pairwise fun f g => f.inner.start < g.inner.start := by
  have h := (pairwise_lex s).sublist (faults_parseLevel_sublist [] (lex s))
  exact (List.pairwise_map.1 h).imp And.left

namespace SelfNested

variable {s name : Text} {outer inner : Span}

theorem stop_le (h : SelfNested (lex s) name outer inner) : outer.stop ≤ inner.start := by
  obtain ⟨body, hm, hi⟩ := h
  obtain ⟨stop, hs⟩ := hm.sublist
  have hb := (List.pairwise_cons.1 ((pairwise_lex s).sublist hs)).1
  exact (hb _ (List.mem_append_left _ hi)).2

theorem outer_unique {other : Span} (h : SelfNested (lex s) name outer inner)
    (ho : SelfNested (lex s) name other inner) : other = outer := by
  have hn : ((parseLevel [] (lex s)).2.map NestedBlock.start).Nodup :=
    (nodup_lex s).sublist (faults_parseLevel_sublist [] (lex s))
  have hf : ⟨name, outer, inner⟩ ∈ (parseLevel [] (lex s)).2 := (mem_faults_iff (nodup_lex s)).2 h
  have hg : ⟨name, other, inner⟩ ∈ (parseLevel [] (lex s)).2 := (mem_faults_iff (nodup_lex s)).2 ho
  exact congrArg NestedBlock.outer (List.inj_on_of_nodup_map hn hg hf rfl)

theorem not_mem_openings (h : SelfNested (lex s) name outer inner) (other : Text) :
    (other, inner.start) ∉ openingsOf (parseLevel [] (lex s)).1 := by
  intro ho
  obtain ⟨p, body, hm, hp⟩ := (mem_openings_parseLevel [] (lex s)).1 ho
  obtain ⟨around, ha, hi⟩ := h
  have he := List.inj_on_of_nodup_map (nodup_starts s) hm.start_mem (ha.mem hi) hp
  -- one token begins at a place, so the block would be matched at the reported marker
  cases he
  exact SelfNested.not_matched (nodup_lex s) ⟨around, ha, hi⟩ hm

end SelfNested

theorem parse_eq_error_iff {s : Text} {faults : List NestedBlock} :
    parse s = .error faults ↔ (parseLevel [] (lex s)).2 = faults ∧ faults ≠ [] := by
  unfold parse
  split
  · next hp => simp [hp]
  · next fault rest hp =>
    simp only [hp, Except.error.injEq]
    exact ⟨fun h => ⟨h, by simp [← h]⟩, And.left⟩

/-- A template is rejected exactly if a start marker lies inside a matched block of its name. Each
of these markers is reported once, in document order, with the one block of its name around it, and
opens no block itself. In no moment of the run are two blocks of one name open. -/
theorem parse_selfNested (s : Text) :
    let l := lex s
    ((∃ faults, parse s = .error faults) ↔ ∃ name outer inner, SelfNested l name outer inner) ∧
      (∀ faults, parse s = .error faults →
        (∀ f, f ∈ faults ↔ SelfNested l f.name f.outer f.inner) ∧
        (faults.Pairwise fun f g => f.inner.start < g.inner.start) ∧
        ∀ f ∈ faults, f.outer.stop ≤ f.inner.start ∧
          (∀ outer, SelfNested l f.name outer f.inner → outer = f.outer) ∧
          ∀ name, (name, f.inner.start) ∉ openingsOf (parseLevel [] l).1) ∧
      (parseLevel [] l).2 = (parseRun [] l).flatMap Moment.faults ∧
      ∀ m ∈ parseRun [] l, (m.enclosing.map Prod.fst).Nodup := by
  intro l
  have hmem {f : NestedBlock} : f ∈ (parseLevel [] l).2 ↔ SelfNested l f.name f.outer f.inner :=
    mem_faults_iff (nodup_lex s)
  refine ⟨⟨?_, ?_⟩, ?_, faults_parseLevel [] l, ?_⟩
  · rintro ⟨faults, hp⟩
    obtain ⟨rfl, hne⟩ := parse_eq_error_iff.1 hp
    obtain ⟨f, hf⟩ := List.exists_mem_of_ne_nil _ hne
    exact ⟨f.name, f.outer, f.inner, hmem.1 hf⟩
  · rintro ⟨name, outer, inner, hn⟩
    have hf : ⟨name, outer, inner⟩ ∈ (parseLevel [] l).2 := hmem.2 hn
    exact ⟨_, parse_eq_error_iff.2 ⟨rfl, List.ne_nil_of_mem hf⟩⟩
  · intro faults hp
    obtain ⟨rfl, -⟩ := parse_eq_error_iff.1 hp
    refine ⟨fun f => hmem, pairwise_faults s, fun f hf => ?_⟩
    have hn := hmem.1 hf
    exact ⟨hn.stop_le, fun outer ho => hn.outer_unique ho, hn.not_mem_openings⟩
  · intro m hm
    exact (Moment.Clear.run ⟨by simp, by simp⟩ hm).nodup

def reopenedBelow : Text :=
  "@start_block_a@@start_block_b@@start_block_a@@end_block_b@@end_block_a@".toList

theorem parse_selfNested_reopenedBelow :
    parse reopenedBelow = .error [⟨['a'], ⟨0, 15⟩, ⟨30, 45⟩⟩] ∧
      SelfNested (lex reopenedBelow) ['a'] ⟨0, 15⟩ ⟨30, 45⟩ ∧
      ∀ name, (name, 30) ∉ openingsOf (parseLevel [] (lex reopenedBelow)).1 := by
  have hp : parse reopenedBelow = .error [⟨['a'], ⟨0, 15⟩, ⟨30, 45⟩⟩] := by cbv
  obtain ⟨hmem, -, hfault⟩ := (parse_selfNested reopenedBelow).2.1 _ hp
  have hn : SelfNested (lex reopenedBelow) ['a'] ⟨0, 15⟩ ⟨30, 45⟩ :=
    (hmem ⟨['a'], ⟨0, 15⟩, ⟨30, 45⟩⟩).1 (List.mem_singleton_self _)
  exact ⟨hp, hn, (hfault _ (List.mem_singleton_self _)).2.2⟩

end RasterText
