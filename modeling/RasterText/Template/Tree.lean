import RasterText.Text.Blank
import RasterText.Template.Token
set_option autoImplicit false

/-!
The block structure of a template. A start marker is closed by the first end marker of its name
that follows it, even by one inside another block; the tokens between them form the body, read
on their own. A start marker without such an end, and an end marker without a start, stay single
nodes. A block must not be opened again inside itself.
-/

namespace RasterText

inductive Node where
  | text (value : Text) (span : Span)
  | tag (name : Text) (span : Span)
  | block (name : Text) (body : List Node) (span : Span)
  | unclosed (name : Text) (span : Span)
  | strayEnd (name : Text) (span : Span)
  deriving Repr

def imagesTable : Text := "images_table".toList

namespace Node

def blockName? : Node → Option Text
  | block name _ _ => some name
  | _ => none

def isEmptyText : Node → Bool
  | text [] _ => true
  | _ => false

def trimStart : Node → Node
  | text value span => text (Text.trimStart value) span
  | node => node

def trimEnd : Node → Node
  | text value span => text (Text.trimEnd value) span
  | node => node

end Node

def mapLast (f : Node → Node) : List Node → List Node
  | [] => []
  | [n] => [f n]
  | n :: m :: rest => n :: mapLast f (m :: rest)

/-- Trims the text at the two edges of a body and drops texts of which nothing is left. Spans keep
the place that was read. -/
def trimBody (body : List Node) : List Node :=
  (mapLast Node.trimEnd (body.modifyHead Node.trimStart)).filter fun n => !n.isEmptyText

/-- A block that is opened at `inner` inside the block of the same name opened at `outer`. -/
structure NestedBlock where
  name : Text
  outer : Span
  inner : Span
  deriving DecidableEq, Repr

def NestedBlock.message (e : NestedBlock) : Text :=
  "block '".toList ++ e.name ++ "' at ".toList ++ decimal e.inner.start ++ "..".toList ++
    decimal e.inner.stop ++ " is nested inside another '".toList ++ e.name ++ "' block".toList

/-- What stands before the first end marker of the block `name`, the span of that marker, and what
follows it. -/
def splitAtEnd (name : Text) : List Lexeme → Option (List Lexeme × Span × List Lexeme)
  | [] => none
  | x :: rest =>
    if x.token = .blockEnd name then some ([], x.span, rest)
    else (splitAtEnd name rest).map fun (body, stop, after) => (x :: body, stop, after)

theorem length_of_splitAtEnd {name : Text} {l body after : List Lexeme} {stop : Span}
    (h : splitAtEnd name l = some (body, stop, after)) :
    body.length + after.length + 1 = l.length := by
  induction l generalizing body with
  | nil => simp [splitAtEnd] at h
  | cons x rest ih =>
    simp only [splitAtEnd] at h
    split at h
    · simp only [Option.some.injEq, Prod.mk.injEq] at h
      simp [← h.1, ← h.2.2]
    · simp only [Option.map_eq_some_iff, Prod.mk.injEq, Prod.exists] at h
      obtain ⟨body', stop', after', hs, rfl, rfl, rfl⟩ := h
      have := ih hs
      simp; omega

/-- A start marker named like one of the enclosing blocks is reported with the outermost of them. -/
def nestedIn (enclosing : List (Text × Span)) (name : Text) (span : Span) : List NestedBlock :=
  match enclosing.find? fun e => e.1 == name with
  | some (_, outer) => [⟨name, outer, span⟩]
  | none => []

/-- The nodes of one level, and the blocks that are opened again inside themselves. -/
def parseLevel (enclosing : List (Text × Span)) :
    List Lexeme → List Node × List NestedBlock
  | [] => ([], [])
  | ⟨.text value, p⟩ :: rest =>
    let (nodes, faults) := parseLevel enclosing rest
    (.text value p :: nodes, faults)
  | ⟨.tag name, p⟩ :: rest =>
    let (nodes, faults) := parseLevel enclosing rest
    (.tag name p :: nodes, faults)
  | ⟨.blockEnd name, p⟩ :: rest =>
    let (nodes, faults) := parseLevel enclosing rest
    (.strayEnd name p :: nodes, faults)
  | ⟨.blockStart name, p⟩ :: rest =>
    match _h : splitAtEnd name rest with
    | some (body, stop, after) =>
      let (inner, innerFaults) := parseLevel (enclosing ++ [(name, p)]) body
      let (nodes, faults) := parseLevel enclosing after
      (.block name (trimBody inner) ⟨p.start, stop.stop⟩ :: nodes,
        nestedIn enclosing name p ++ innerFaults ++ faults)
    | none =>
      let (nodes, faults) := parseLevel enclosing rest
      (.unclosed name p :: nodes, nestedIn enclosing name p ++ faults)
termination_by l => l.length
decreasing_by
  all_goals simp_wf
  · have := length_of_splitAtEnd _h; omega
  · have := length_of_splitAtEnd _h; omega

/-- The tree of a template, or all blocks that are opened again inside themselves. -/
def parse (s : Text) : Except (List NestedBlock) (List Node) :=
  match parseLevel [] (lex s) with
  | (nodes, []) => .ok nodes
  | (_, fault :: faults) => .error (fault :: faults)

def blockNames (nodes : List Node) : List Text := nodes.filterMap Node.blockName?

end RasterText
