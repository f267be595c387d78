import RasterText.CommandLine.Settings
set_option autoImplicit false

/-!
Reading a command line. The value of an option stands behind it in the same argument or is the next
argument, unless that is an option itself. A value in an argument of its own, like a path, is
checked late: when something comes after it that the program knows. So an unknown option is found
before the fault in a value right in front of it.
-/

namespace RasterText

inductive Argument where
  | separator
  | long (name : Text) (value : Option Text)
  /-- Letters of options; the value of an option may follow its letter. -/
  | letters (cluster : Text)
  | plain (value : Text)
  deriving DecidableEq, Repr

def Argument.ofText : Text → Argument
  | ['-', '-'] => separator
  | '-' :: '-' :: rest =>
    match cutAtEquals rest with
    | some (name, value) => long name (some value)
    | none => long rest none
  | ['-'] => plain ['-']
  | '-' :: cluster => letters cluster
  | value => plain value

/-- What has been read last and is not checked yet. -/
inductive Pending where
  | nothing
  | setting (setting : Setting) (value : Option Text)
  | images (paths : List Text)
  deriving DecidableEq, Repr

structure Progress where
  settings : Settings := {}
  pending : Pending := .nothing
  pathsOnly : Bool := false
  deriving DecidableEq, Repr

namespace Progress

def settle (p : Progress) : Except Refusal Settings :=
  match p.pending with
  | .nothing => .ok p.settings
  | .setting setting (some value) => p.settings.applySetting setting value
  | .setting setting none => .error (.usage (.missingValue setting.shown))
  | .images paths => p.settings.addImages paths

def takeSetting (p : Progress) (setting : Setting) : Option Text → Except Refusal Progress
  | none => do return { p with settings := ← p.settle, pending := .setting setting none }
  | some value => do
    let settings ← (← p.settle).applySetting setting value
    return { p with settings, pending := .nothing }

def takeFlag (p : Progress) (flag : Flag) : Except Refusal Progress := do
  let settings ← (← p.settle).applyFlag flag
  return { p with settings, pending := .nothing }

def takeLong (p : Progress) (name : Text) (value : Option Text) : Except Refusal Progress :=
  match CommandOption.ofLong? name, value with
  | none, _ => .error (.usage (.unexpectedArgument ('-' :: '-' :: name)))
  | some (.setting setting), value => p.takeSetting setting value
  | some (.flag flag), none => p.takeFlag flag
  | some (.flag flag), some value => .error (.usage (.unexpectedValue value flag))

/-- The value behind the letter of an option; an equals sign may stand between them. -/
def valueBehind : Text → Option Text
  | [] => none
  | '=' :: value => some value
  | value => some value

def takeLetters (p : Progress) : Text → Except Refusal Progress
  | [] => .ok p
  | c :: rest =>
    match CommandOption.ofShort? c with
    | none => .error (.usage (.unexpectedArgument ['-', c]))
    | some (.setting setting) => p.takeSetting setting (valueBehind rest)
    | some (.flag flag) => do (← p.takeFlag flag).takeLetters rest

def takePath (p : Progress) (path : Text) : Except Refusal Progress :=
  match p.pending with
  | .images paths => .ok { p with pending := .images (paths ++ [path]) }
  | _ => do return { p with settings := ← p.settle, pending := .images [path] }

def takePlain (p : Progress) (value : Text) : Except Refusal Progress :=
  match p.pending with
  | .setting setting none => .ok { p with pending := .setting setting (some value) }
  | _ => p.takePath value

def take (p : Progress) (argument : Text) : Except Refusal Progress :=
  if p.pathsOnly then p.takePath argument
  else
    match Argument.ofText argument with
    | .separator => .ok { p with pathsOnly := true }
    | .long name value => p.takeLong name value
    | .letters cluster => p.takeLetters cluster
    | .plain value => p.takePlain value

end Progress

/-- Reads a command line. Without a list of the presets, there has to be an image. -/
def Settings.ofArguments (arguments : List Text) : Except Refusal Settings := do
  let settings ← (← arguments.foldlM Progress.take {}).settle
  if settings.images = [] ∧ ¬settings.listPresets then throw (.usage .noImages)
  return settings

end RasterText
