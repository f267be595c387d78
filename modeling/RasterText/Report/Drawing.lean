import RasterText.Text.Blank
import RasterText.Text.Width
import RasterText.Report.Margin
set_option autoImplicit false

/-!
The text of an excerpt. Every line is followed by two rows for each of its marks, the arrow of the
mark on the second one. Lines without labels between others are left out.
-/

namespace RasterText

/-- A character of a line as it is shown, with the number of its columns. A tabulator leads to the
next multiple of four. -/
def shownChar (c : Char) (column : Nat) : Char × Nat :=
  if c = '\t' then (' ', (column / 4 + 1) * 4 - column)
  else if isBlank c then (' ', 1)
  else (c, columns c)

def leastBy? {α : Type} (measure : α → Nat) : List α → Option α
  | [] => none
  | a :: rest =>
    match leastBy? measure rest with
    | some b => if measure b < measure a then some b else some a
    | none => some a

namespace LineView

def content (v : LineView) : Text := Text.trimEnd v.line.content

/-- The label that gives a column its colour: the shortest one there. -/
def highlight? (v : LineView) (column : Nat) : Option Label :=
  let labels := v.margin.toList.map Mark.label ++ v.spanning ++ v.marks.map Mark.label
  leastBy? Label.length (labels.filter (·.holds (v.line.offset + column)))

def underline? (v : LineView) (column : Nat) : Option Label :=
  leastBy? Label.length ((v.marks.filter fun m =>
    !m.spanning && m.label.holds (v.line.offset + column)).map Mark.label)

/-- The mark whose arrow passes through a column on its way down from the given row. -/
def bar? (v : LineView) (column row : Nat) : Option Mark :=
  (v.marks.drop row).find? fun m => m.column == column && !v.isMargin m.label

def sourceText (v : LineView) : Text :=
  if v.ellipsis then []
  else v.content.zipIdx.flatMap fun (c, column) =>
    let paint := ((v.highlight? column).map Label.paint).getD .unimportant
    let (shown, width) := shownChar c column
    if isBlank shown then (List.replicate width (paint.char shown)).flatten
    else paint.char shown

def arrowLength (v : LineView) : Nat :=
  v.marks.foldl (fun n m =>
    if m.spanning then v.line.content.length else max n (m.label.stop - v.line.offset)) 0 + 2

def fill (first rest : Text) (width : Nat) : Text :=
  match width with
  | 0 => []
  | n + 1 => first ++ (List.replicate n rest).flatten

def columnWidths (v : LineView) : List Nat :=
  let widths := v.content.zipIdx.map fun (c, column) => (shownChar c column).2
  widths.take v.arrowLength ++ List.replicate (v.arrowLength - widths.length) 1

def row (v : LineView) (draw : Nat → Text × Text) : Text :=
  v.columnWidths.zipIdx.flatMap fun (width, column) =>
    let (first, rest) := draw column
    fill first rest width

def aboveText (v : LineView) (index : Nat) : Text :=
  v.row fun column =>
    let underline := if index = 0 then v.underline? column else none
    match v.bar? column index, underline with
    | some m, some _ => (m.label.paint.char '┬', m.label.paint.char '─')
    | some m, none =>
      (m.label.paint.char (if m.spanning ∧ index = 0 then '▲' else '│'), m.label.paint.char ' ')
    | none, some l => (l.paint.char '─', l.paint.char '─')
    | none, none => ([' '], [' '])

def arrowText (v : LineView) (index : Nat) (mark : Mark) : Text :=
  v.row fun column =>
    let paint := mark.label.paint
    let bar := (paint.char '─', paint.char '─')
    let past := mark.column < column
    let isBar := (past != mark.spanning) || (mark.speaks && past)
    if column = mark.column ∧ ¬ v.isMargin mark.label then
      let turn := if mark.spanning then (if mark.speaks then '┴' else '╯') else '╰'
      (paint.char turn, paint.char '─')
    else
      match v.bar? column index with
      | some m => if isBar then bar else (m.label.paint.char '│', paint.char ' ')
      | none => if isBar then bar else ([' '], [' '])

def markText (v : LineView) (mark : Mark) (index : Nat) : Text :=
  v.marginText (.above index) ++ v.aboveText index ++ ['\n'] ++
    v.marginText (.arrow index) ++ v.arrowText index mark ++
    (if mark.speaks then ' ' :: mark.label.message else []) ++ ['\n']

def text (v : LineView) : Text :=
  v.marginText .source ++ v.sourceText ++ ['\n'] ++
    v.marks.zipIdx.flatMap fun (m, i) => v.markText m i

end LineView

namespace Excerpt

/-- Draws lines. Of several lines without labels only the first leaves a trace: an empty margin, or
the bars of the labels that span it. -/
def linesText (e : Excerpt) (ellipsis : Bool) : List Line → Text
  | [] => []
  | line :: rest =>
    let margin := e.marginMark? line
    let marks := e.marks line margin
    let view (ellipsis : Bool) : LineView :=
      ⟨e.numberWidth, e.spanning, line, margin, marks, ellipsis⟩
    if marks = [] ∧ margin = none then
      if !ellipsis && e.spanning.any (·.holds line.offset) then
        (view true).text ++ e.linesText true rest
      else
        let trace :=
          if ellipsis then []
          else [' '] ++ (view false).numberText (.above 0) ++ [' ', '\n']
        trace ++ e.linesText true rest
    else (view false).text ++ e.linesText false rest

/-- The excerpt with the place of an offset above it. Without labels there is nothing to show. -/
def text (e : Excerpt) (name : Text) (offset : Nat) : Text :=
  if e.labels = [] then []
  else
    let indent := List.replicate (e.numberWidth + 2) ' '
    let place :=
      match Line.find? e.lines offset with
      | some line =>
        decimal (line.number + 1) ++ [':'] ++ decimal (offset - line.offset + 1)
      | none => "?:?".toList
    let (first, stop) := e.range
    indent ++ Paint.margin.char '╭' ++ Paint.margin.char '─' ++ Paint.margin.char '[' ++ name ++
      [':'] ++ place ++ Paint.margin.char ']' ++ ['\n'] ++
      indent ++ Paint.margin.char '│' ++ ['\n'] ++
      e.linesText false ((e.lines.take stop).drop first) ++
      Paint.margin.apply (List.replicate (e.numberWidth + 2) '─' ++ ['╯']) ++ ['\n']

end Excerpt

end RasterText
