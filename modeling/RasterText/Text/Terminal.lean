import RasterText.Text.Basic
set_option autoImplicit false

/-!
What is left of a text for a terminal when its control sequences are taken out. Only blanks are
left of the control characters. White space that stands inside a sequence is carried out at once,
and so the text after it shows too, up to the next control character: there the sequence goes on.
-/

namespace RasterText

inductive TerminalState where
  | ground
  | escape
  /-- So have characters that only the last one of the sequence gives a meaning. -/
  | intermediate
  | parameters
  | command
  | device
  /-- A string is read that the terminal has no use for. -/
  | string
  deriving DecidableEq, Repr

namespace TerminalState

def reset? : Char → Option TerminalState
  | '\x18' | '\x1a' => some ground
  | '\x1b' => some escape
  | _ => none

def ofIntroducer (c : Char) : TerminalState :=
  match c with
  | '[' => parameters
  | ']' => command
  | 'P' => device
  | 'X' | '^' | '_' => string
  | c => if c.toNat < 0x30 then intermediate else ground

/-- The byte that ends a string, which may be one of several bytes of a character. -/
def stringEnd : UInt8 := 0x9c

/-- The state that a character leads to where it has not led to one anyway. Of a sequence with
parameters, only a character from the at sign on is the last one. -/
def proceed (s : TerminalState) (c : Char) : TerminalState :=
  let ordinary := 0x20 ≤ c.toNat ∧ c.toNat < 0x7f
  match s with
  | ground => ground
  | escape => if ordinary then ofIntroducer c else escape
  | intermediate => if ordinary ∧ 0x30 ≤ c.toNat then ground else intermediate
  | parameters => if ordinary ∧ 0x40 ≤ c.toNat then ground else parameters
  | command => if c = '\x07' then ground else command
  | device => if ordinary ∧ 0x40 ≤ c.toNat then string else device
  | string => if stringEnd ∈ String.utf8EncodeChar c then ground else string

def next (s : TerminalState) (c : Char) : TerminalState := (reset? c).getD (s.proceed c)

end TerminalState

def isPrintedControl (c : Char) : Bool := c == '\t' || c == '\n' || c == '\x0c' || c == '\r'

/-- Whether a character shows where no control sequence is open. Of the control characters, those
of ASCII are hidden. -/
def isPrinted (c : Char) : Bool := isPrintedControl c || (0x20 ≤ c.toNat && c.toNat != 0x7f)

namespace TerminalState

/-- Whether a character shows in this state. Strings and commands keep all to themselves. -/
def shows (s : TerminalState) (c : Char) : Bool :=
  match s with
  | ground => isPrinted c
  | escape | intermediate | parameters => isPrintedControl c
  | command | device | string => false

/-- The state after a character that shows. One beyond ASCII ends an open sequence. -/
def afterShown (s : TerminalState) (c : Char) : TerminalState :=
  if c.toNat < 0x80 then s else ground

end TerminalState

/-- Leaves out what does not show, where `showing` tells whether the last character did. -/
def visibleFrom (s : TerminalState) (showing : Bool) : Text → Text
  | [] => []
  | c :: rest =>
    if showing && isPrinted c || s.shows c then c :: visibleFrom (s.afterShown c) true rest
    else visibleFrom (s.next c) false rest

def Text.visible (t : Text) : Text := visibleFrom .ground false t

end RasterText
