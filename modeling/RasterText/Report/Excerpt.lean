import RasterText.Text.Lines
import RasterText.Report.Label
set_option autoImplicit false

namespace RasterText

structure Excerpt where
  lines : List Line
  labels : List Label

namespace Excerpt

/-- The labels that begin and end inside the text. -/
def ofText (source : Text) (labels : List Label) : Excerpt where
  lines := Line.ofText source
  labels := labels.filter fun l =>
    (Line.find? (Line.ofText source) l.start).isSome &&
      (Line.find? (Line.ofText source) l.last).isSome

def lineNumber (e : Excerpt) (offset : Nat) : Nat :=
  ((Line.find? e.lines offset).map Line.number).getD 0

def spans (e : Excerpt) (l : Label) : Bool := e.lineNumber l.start != e.lineNumber l.last

def spanning (e : Excerpt) : List Label :=
  (e.labels.filter e.spans).mergeSort fun a b => b.length ≤ a.length

/-- The numbers of the first line that the labels reach over and of the one after the last. -/
def range (e : Excerpt) : Nat × Nat :=
  let first := (e.labels.map Label.start).min?.getD 0
  let last := ((e.labels.map Label.stop).max?.getD 0) - 1
  (e.lineNumber first, e.lineNumber last + 1)

def numberWidth (e : Excerpt) : Nat := (decimal e.range.2).length

def startMark (line : Line) (l : Label) : Mark := ⟨l.start - line.offset, l, true, false⟩

def endMark (line : Line) (l : Label) : Mark := ⟨l.last - line.offset, l, true, true⟩

/-- The mark of a label whose arrow leads along the margin of the line itself. -/
def marginMark? (e : Excerpt) (line : Line) : Option Mark :=
  let marks := e.spanning.filterMap fun l =>
    if line.holds l.start then some (startMark line l)
    else if line.holds l.last then some (endMark line l)
    else none
  marks.foldl (fun best m =>
    match best with
    | some b => if m.before b then some m else some b
    | none => some m) none

def marks (e : Excerpt) (line : Line) (margin : Option Mark) : List Mark :=
  let spanning := e.spanning.filterMap fun l =>
    if line.holds l.start ∧ margin.map Mark.label ≠ some l then some (startMark line l)
    else if line.holds l.last then some (endMark line l)
    else none
  let inline := e.labels.filter fun l => !e.spans l && line.offset ≤ l.start && l.stop ≤ line.stop
  let all := spanning ++ inline.map fun l =>
    ⟨max ((l.start + l.stop) / 2) l.start - line.offset, l, false, true⟩
  all.mergeSort fun a b => !b.before a

end Excerpt

end RasterText
