import RasterText.Report.Excerpt
set_option autoImplicit false

/-!
The margin of an excerpt: line numbers, and one column for every label that spans lines with a last
column for the head of an arrow.
-/

namespace RasterText

structure LineView where
  numberWidth : Nat
  spanning : List Label
  line : Line
  margin : Option Mark
  marks : List Mark
  /-- Whether the line stands for others that are left out. -/
  ellipsis : Bool

inductive RowKind where
  | source
  | above (row : Nat)
  | arrow (row : Nat)
  deriving DecidableEq, Repr

namespace LineView

def isMargin (v : LineView) (l : Label) : Bool := v.margin.map Mark.label == some l

structure Cell where
  corner : Option (Label × Bool) := none
  hbar : Option Label := none
  vbar : Option Label := none
  pointer : Option (Mark × Bool) := none

def rowOf (v : LineView) (l : Label) : Nat :=
  (v.marks.findIdx? fun m => m.label == l).getD 0

def addToCell (v : LineView) (kind : RowKind) (column : Nat) (cell : Cell) (i : Nat)
    (l : Label) : Cell :=
  let margin := v.margin.filter fun m => m.label == l
  let own := i == column
  let isStart := v.line.holds l.start
  let isEnd := v.line.holds l.last
  let bar (c : Bool) : Cell :=
    { cell with vbar := cell.vbar.or (if own && c then some l else none) }
  let rowCase (row : Nat) (isArrow : Bool) : Cell :=
    if row = v.rowOf l then
      let cell :=
        match margin with
        | some m => { cell with vbar := if own then some m.label else none }
        | none => cell
      if margin.isSome ∧ isStart then cell
      else if isArrow then
        { cell with hbar := some l, corner := if own then some (l, isStart) else cell.corner }
      else if isStart then cell
      else { cell with vbar := cell.vbar.or (if own then some l else none) }
    else bar (isStart != decide (row < v.rowOf l))
  if l.start ≤ v.line.stop ∧ v.line.offset < l.stop then
    match kind, margin with
    | .source, some m => { cell with pointer := some (m, isStart) }
    | .source, none => if isStart then cell else bar true
    | .above row, _ => if isStart || isEnd then rowCase row false else bar true
    | .arrow row, _ => if isStart || isEnd then rowCase row true else bar true
  else cell

def cell (v : LineView) (kind : RowKind) (column : Nat) : Cell :=
  let labels := v.spanning.take (column + 1)
  let cell := (labels.zipIdx).foldl (fun c (l, i) => v.addToCell kind column c i l) {}
  let onWay :=
    match cell.pointer with
    | some (m, _) =>
      if v.spanning[column]? ≠ some m.label ∧ column + 1 ≠ v.spanning.length then some m.label
      else none
    | none => none
  let hbar := (cell.hbar.or onWay).filter fun l => !v.isMargin l || kind != .source
  { cell with hbar }

def cellText (v : LineView) (kind : RowKind) (column : Nat) : Text :=
  let c := v.cell kind column
  match c.corner, c.hbar, c.vbar, c.pointer with
  | some (l, isStart), _, _, _ => l.paint.char (if isStart then '╭' else '╰') ++ l.paint.char '─'
  | none, some l, _, _ => l.paint.char '─' ++ l.paint.char '─'
  | none, none, some l, _ => l.paint.char (if v.ellipsis then '┆' else '│') ++ [' ']
  | none, none, none, some (m, isStart) =>
    let isLimit := column == v.spanning.length
    let isColumn := v.spanning[column]? == some m.label
    let first :=
      if isLimit then '▶'
      else if isColumn then (if isStart then '╭' else '├')
      else '─'
    m.label.paint.char first ++ m.label.paint.char (if isLimit then ' ' else '─')
  | none, none, none, none => [' ', ' ']

def numberText (v : LineView) (kind : RowKind) : Text :=
  let width := v.numberWidth
  if kind = .source ∧ ¬ v.ellipsis then
    let number := decimal (v.line.number + 1)
    Paint.margin.apply (List.replicate (width - number.length) ' ' ++ number ++ " │".toList)
  else
    Paint.skippedMargin.apply
      (List.replicate (width + 1) ' ' ++ [if v.ellipsis then '┆' else '│'])

def marginText (v : LineView) (kind : RowKind) : Text :=
  let columns := if v.spanning = [] then 0 else v.spanning.length + 1
  [' '] ++ v.numberText kind ++ [' '] ++ (List.range columns).flatMap (v.cellText kind)

end LineView

end RasterText
