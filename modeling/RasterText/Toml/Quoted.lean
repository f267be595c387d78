import RasterText.Text.Hexadecimal
set_option autoImplicit false

namespace RasterText.Toml

def isSpace (c : Char) : Bool := c == ' ' || c == '\t'

/-- Control characters may not stand in strings and comments, the tabulator apart. -/
def isPlain (c : Char) : Bool := c == '\t' || (0x20 ≤ c.val && c.val != 0x7f)

def charOfHex (digits : Text) : Option Char :=
  match readHex digits with
  | some n => if n.isValidChar then some (Char.ofNat n) else none
  | none => none

def readEscape : Text → Option (Char × Text)
  | 'b' :: r => some ('\x08', r)
  | 't' :: r => some ('\t', r)
  | 'n' :: r => some ('\n', r)
  | 'f' :: r => some ('\x0c', r)
  | 'r' :: r => some ('\r', r)
  | '"' :: r => some ('"', r)
  | '\\' :: r => some ('\\', r)
  | 'u' :: a :: b :: c :: d :: r => (charOfHex [a, b, c, d]).map fun x => (x, r)
  | 'U' :: a :: b :: c :: d :: e :: f :: g :: h :: r =>
    (charOfHex [a, b, c, d, e, f, g, h]).map fun x => (x, r)
  | _ => none

theorem length_of_readEscape {s rest : Text} {c : Char} (h : readEscape s = some (c, rest)) :
    rest.length < s.length := by
  unfold readEscape at h
  split at h
  all_goals
    simp only [Option.some.injEq, Prod.mk.injEq, Option.map_eq_some_iff, reduceCtorEq] at h
  all_goals first
    | obtain ⟨_, rfl⟩ := h
      simp
    | obtain ⟨_, _, _, rfl⟩ := h
      simp
      omega

def readQuoted (s : Text) : Option (Text × Text) :=
  match s with
  | [] => none
  | '"' :: r => some ([], r)
  | '\\' :: r =>
    match _h : readEscape r with
    | some (c, rest) => (readQuoted rest).map fun (t, u) => (c :: t, u)
    | none => none
  | c :: r => if isPlain c then (readQuoted r).map fun (t, u) => (c :: t, u) else none
termination_by s.length
decreasing_by
  · have := length_of_readEscape _h
    simp only [List.length_cons]; omega
  · simp

def readLiteral : Text → Option (Text × Text)
  | [] => none
  | '\'' :: r => some ([], r)
  | c :: r => if isPlain c then (readLiteral r).map fun (t, u) => (c :: t, u) else none

def endsLine (s : Text) : Bool :=
  match s.dropWhile isSpace with
  | '\n' :: _ => true
  | '\r' :: '\n' :: _ => true
  | _ => false

/-- Reads a string of many lines in quotation marks, after the first three. A backslash at the end
of a line removes the blanks up to the next character; `skipping` says that this is under way. The
last three of up to five marks close the string. -/
def readQuotedLines (skipping : Bool) (s : Text) : Option (Text × Text) :=
  match s with
  | [] => none
  | '"' :: '"' :: '"' :: '"' :: '"' :: r => some (['"', '"'], r)
  | '"' :: '"' :: '"' :: '"' :: r => some (['"'], r)
  | '"' :: '"' :: '"' :: r => some ([], r)
  | '\\' :: r =>
    if endsLine r then readQuotedLines true r
    else
      match _h : readEscape r with
      | some (c, rest) => (readQuotedLines false rest).map fun (t, u) => (c :: t, u)
      | none => none
  | '\r' :: '\n' :: r =>
    if skipping then readQuotedLines true r
    else (readQuotedLines false r).map fun (t, u) => ('\n' :: t, u)
  | c :: r =>
    if skipping && (isSpace c || c == '\n') then readQuotedLines true r
    else if isPlain c || c == '\n' then (readQuotedLines false r).map fun (t, u) => (c :: t, u)
    else none
termination_by s.length
decreasing_by
  · simp
  · have := length_of_readEscape _h
    simp only [List.length_cons]; omega
  all_goals simp only [List.length_cons]; omega

def readLiteralLines : Text → Option (Text × Text)
  | [] => none
  | '\'' :: '\'' :: '\'' :: '\'' :: '\'' :: r => some (['\'', '\''], r)
  | '\'' :: '\'' :: '\'' :: '\'' :: r => some (['\''], r)
  | '\'' :: '\'' :: '\'' :: r => some ([], r)
  | '\r' :: '\n' :: r => (readLiteralLines r).map fun (t, u) => ('\n' :: t, u)
  | c :: r =>
    if isPlain c || c == '\n' then (readLiteralLines r).map fun (t, u) => (c :: t, u) else none

/-- A line ending right after the opening marks does not belong to the string. -/
def skipLineEnd : Text → Text
  | '\n' :: r => r
  | '\r' :: '\n' :: r => r
  | s => s

def readString : Text → Option (Text × Text)
  | '"' :: r => readQuoted r
  | '\'' :: r => readLiteral r
  | _ => none

def readAnyString : Text → Option (Text × Text)
  | '"' :: '"' :: '"' :: r => readQuotedLines false (skipLineEnd r)
  | '\'' :: '\'' :: '\'' :: r => readLiteralLines (skipLineEnd r)
  | s => readString s

end RasterText.Toml
