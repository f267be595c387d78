import RasterText.Text.Basic
set_option autoImplicit false

/-!
Markers of the template language. A marker opens with an at sign or with a dollar sign and a
parenthesis, names an identifier, and closes with an at sign or a parenthesis; the two styles may
be mixed. All else is text, a lone opener included, so every character of a template belongs to
exactly one token.
-/

namespace RasterText

def isIdentifierHead (c : Char) : Bool := c == '_' || c.isAlpha

def isIdentifierTail (c : Char) : Bool := isIdentifierHead c || c.isDigit

def isIdentifier : Text → Bool
  | [] => false
  | c :: r => isIdentifierHead c && r.all isIdentifierTail

/-- A complete marker as it is written, with the identifier inside it. -/
structure Marker where
  written : Text
  name : Text
  deriving DecidableEq, Repr

def identifierPrefix : Text → Text
  | [] => []
  | c :: r => if isIdentifierHead c then c :: r.takeWhile isIdentifierTail else []

def Marker.readBody (opener : Text) (s : Text) : Option (Marker × Text) :=
  match identifierPrefix s with
  | [] => none
  | c :: r =>
    let name := c :: r
    match s.drop name.length with
    | '@' :: rest => some (⟨opener ++ name ++ ['@'], name⟩, rest)
    | ')' :: rest => some (⟨opener ++ name ++ [')'], name⟩, rest)
    | _ => none

def Marker.read : Text → Option (Marker × Text)
  | '@' :: s => Marker.readBody ['@'] s
  | '$' :: '(' :: s => Marker.readBody ['$', '('] s
  | _ => none

theorem identifierPrefix_append (s : Text) :
    identifierPrefix s ++ s.drop (identifierPrefix s).length = s := by
  have key (p : Char → Bool) (r : Text) : r.takeWhile p ++ r.drop (r.takeWhile p).length = r := by
    induction r with
    | nil => rfl
    | cons d r ih =>
      by_cases hd : p d
      · simp [hd, ih]
      · simp [hd]
  cases s with
  | nil => rfl
  | cons c r =>
    by_cases hc : isIdentifierHead c
    · simp [identifierPrefix, hc, key isIdentifierTail r]
    · simp [identifierPrefix, hc]

theorem Marker.readBody_written {opener s rest : Text} {m : Marker}
    (h : Marker.readBody opener s = some (m, rest)) : m.written ++ rest = opener ++ s := by
  have hs := identifierPrefix_append s
  simp only [Marker.readBody] at h
  cases hp : identifierPrefix s with
  | nil => simp [hp] at h
  | cons c r =>
    simp only [hp] at h hs
    split at h
    · next rest' hd =>
      simp only [Option.some.injEq, Prod.mk.injEq] at h
      rw [hd] at hs
      simp [← h.1, ← h.2, ← hs]
    · next rest' hd =>
      simp only [Option.some.injEq, Prod.mk.injEq] at h
      rw [hd] at hs
      simp [← h.1, ← h.2, ← hs]
    · simp at h

theorem Marker.read_written {s rest : Text} {m : Marker}
    (h : Marker.read s = some (m, rest)) : m.written ++ rest = s := by
  unfold Marker.read at h
  split at h
  · simpa using Marker.readBody_written h
  · simpa using Marker.readBody_written h
  · simp at h

theorem Marker.readBody_ne_nil {opener s rest : Text} {m : Marker}
    (h : Marker.readBody opener s = some (m, rest)) : m.written ≠ [] := by
  simp only [Marker.readBody] at h
  split at h
  · simp at h
  · split at h <;> simp only [Option.some.injEq, Prod.mk.injEq, reduceCtorEq] at h
    · simp [← h.1]
    · simp [← h.1]

theorem Marker.read_ne_nil {s rest : Text} {m : Marker}
    (h : Marker.read s = some (m, rest)) : m.written ≠ [] := by
  unfold Marker.read at h
  split at h
  · exact Marker.readBody_ne_nil h
  · exact Marker.readBody_ne_nil h
  · simp at h

theorem Marker.read_length {s rest : Text} {m : Marker}
    (h : Marker.read s = some (m, rest)) : rest.length < s.length := by
  have hw := Marker.read_ne_nil h
  have hl := congrArg List.length (Marker.read_written h)
  have hp := List.length_pos_iff.mpr hw
  simp only [List.length_append] at hl
  omega

/-- A piece of a template: literal text, a plain tag, or one end of a block. -/
inductive Token where
  | text (value : Text)
  | tag (name : Text)
  | blockStart (name : Text)
  | blockEnd (name : Text)
  deriving DecidableEq, Repr

namespace Token

def startLead : Text := "start_block_".toList

def endLead : Text := "end_block_".toList

def startKeyword (name : Text) : Text := startLead ++ name

def endKeyword (name : Text) : Text := endLead ++ name

def keyword : Token → Option Text
  | text _ => none
  | tag name => some name
  | blockStart name => some (startKeyword name)
  | blockEnd name => some (endKeyword name)

/-- An identifier is a plain tag unless it names the start or the end of a block, and the name of
a block is not empty. -/
def ofIdentifier (s : Text) : Token :=
  match Text.strip? startLead s with
  | some (c :: name) => blockStart (c :: name)
  | _ =>
    match Text.strip? endLead s with
    | some (c :: name) => blockEnd (c :: name)
    | _ => tag s

theorem keyword_ofIdentifier (s : Text) : (ofIdentifier s).keyword = some s := by
  unfold ofIdentifier
  split
  · next c name h => simp [keyword, startKeyword, ← Text.eq_append_of_strip? h]
  · split
    · next c name h => simp [keyword, endKeyword, ← Text.eq_append_of_strip? h]
    · rfl

/-- The written form: text as it is, a marker between a dollar sign with parentheses. -/
def written : Token → Text
  | text value => value
  | tag name => ['$', '('] ++ name ++ [')']
  | blockStart name => ['$', '('] ++ startKeyword name ++ [')']
  | blockEnd name => ['$', '('] ++ endKeyword name ++ [')']

end Token

structure Lexeme where
  token : Token
  span : Span
  deriving DecidableEq, Repr

def Lexeme.consChar (c : Char) (start : Nat) : List Lexeme → List Lexeme
  | ⟨.text value, span⟩ :: rest => ⟨.text (c :: value), ⟨start, span.stop⟩⟩ :: rest
  | rest => ⟨.text [c], ⟨start, start + c.utf8Size⟩⟩ :: rest

def lexFrom (start : Nat) (s : Text) : List Lexeme :=
  match _h : Marker.read s with
  | some (m, rest) =>
    let stop := start + Text.byteSize m.written
    ⟨.ofIdentifier m.name, ⟨start, stop⟩⟩ :: lexFrom stop rest
  | none =>
    match s with
    | [] => []
    | c :: r => Lexeme.consChar c start (lexFrom (start + c.utf8Size) r)
termination_by s.length
decreasing_by
  · exact Marker.read_length _h
  · simp

def lex (s : Text) : List Lexeme := lexFrom 0 s

def indentEnd (s : Text) : Text :=
  (s.reverse.takeWhile fun c => c == ' ' || c == '\t').reverse

/-- The indentation in front of the first `imageData` tag that has one. -/
def indentOf : List Lexeme → Option Text
  | ⟨.text value, _⟩ :: ⟨.tag name, p⟩ :: rest =>
    if name = "imageData".toList ∧ indentEnd value ≠ [] then some (indentEnd value)
    else indentOf (⟨.tag name, p⟩ :: rest)
  | _ :: rest => indentOf rest
  | [] => none

def imageDataIndent (s : Text) : Option Text := indentOf (lex s)

end RasterText
