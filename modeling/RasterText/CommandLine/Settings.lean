import RasterText.Report.Paint
set_option autoImplicit false

namespace RasterText

inductive Flag where
  | font
  | listPresets
  | verbose
  | help
  deriving DecidableEq, Repr

inductive Setting where
  | preset
  | template
  | name
  | tag
  | output
  deriving DecidableEq, Repr

inductive CommandOption where
  | flag (flag : Flag)
  | setting (setting : Setting)
  deriving DecidableEq, Repr

namespace CommandOption

def ofLong? (name : Text) : Option CommandOption :=
  match String.ofList name with
  | "preset" => some (setting .preset)
  | "template" => some (setting .template)
  | "font" => some (flag .font)
  | "name" => some (setting .name)
  | "tag" => some (setting .tag)
  | "output" => some (setting .output)
  | "list-presets" => some (flag .listPresets)
  | "verbose" => some (flag .verbose)
  | "help" => some (flag .help)
  | _ => none

def ofShort? : Char → Option CommandOption
  | 'p' => some (setting .preset)
  | 't' => some (setting .template)
  | 'f' => some (flag .font)
  | 'n' => some (setting .name)
  | 'o' => some (setting .output)
  | 'v' => some (flag .verbose)
  | 'h' => some (flag .help)
  | _ => none

end CommandOption

def Flag.shown : Flag → Text
  | font => "--font".toList
  | listPresets => "--list-presets".toList
  | verbose => "--verbose...".toList
  | help => "--help".toList

def Setting.shown : Setting → Text
  | preset => "--preset <NAME|FILE>".toList
  | template => "--template <TEMPLATE>".toList
  | name => "--name <NAME>".toList
  | tag => "--tag <KEY=VALUE>".toList
  | output => "--output <OUTPUT>".toList

def imagesShown : Text := "[IMAGES]...".toList

inductive UsageError where
  | unexpectedArgument (argument : Text)
  | unexpectedValue (value : Text) (flag : Flag)
  | missingValue (shown : Text)
  | repeated (shown : Text)
  | malformedTag (value : Text)
  | noImages
  deriving DecidableEq, Repr

/-- A part of a command line that is at fault, as messages for a terminal show it. -/
def markFault (part : Text) : Text := Paint.yellow.apply part

def markPart (part : Text) : Text := Paint.bold.apply part

/-- The message for a terminal. The reason why a tag is refused has no colours of its own. -/
def UsageError.message : UsageError → Text
  | unexpectedArgument argument =>
    "unexpected argument '".toList ++ markFault argument ++ "' found".toList
  | unexpectedValue value flag =>
    "unexpected value '".toList ++ markFault value ++ "' for '".toList ++ markPart flag.shown ++
      "' found; no more were expected".toList
  | missingValue shown =>
    "a value is required for '".toList ++ markFault shown ++ "' but none was supplied".toList
  | repeated shown =>
    "the argument '".toList ++ markFault shown ++ "' cannot be used multiple times".toList
  | malformedTag value =>
    "invalid value '".toList ++ markFault value ++ "' for '".toList ++ markPart Setting.tag.shown ++
      "': expected KEY=VALUE, got '".toList ++ value ++ ['\'']
  | noImages => "the following required arguments were not provided:".toList

inductive Refusal where
  | usage (error : UsageError)
  | help
  deriving DecidableEq, Repr

structure Settings where
  images : List Text := []
  /-- The name or the path of a preset. -/
  preset : Option Text := none
  template : Option Text := none
  font : Bool := false
  name : Option Text := none
  tags : List (Text × Text) := []
  output : Option Text := none
  listPresets : Bool := false
  verbosity : Nat := 0
  deriving DecidableEq, Repr

def cutAtEquals (t : Text) : Option (Text × Text) :=
  match t.dropWhile fun c => !(c == '=') with
  | [] => none
  | _ :: value => some (t.takeWhile fun c => !(c == '='), value)

/-- A tag as `name=value`, where the name has at least one character. -/
def readTag? (t : Text) : Option (Text × Text) :=
  match cutAtEquals t with
  | some ([], _) => none
  | tag => tag

def setOnce (shown : Text) (old : Option Text) (value : Text) : Except Refusal (Option Text) :=
  match old with
  | some _ => .error (.usage (.repeated shown))
  | none => .ok (some value)

def setPathOnce (shown : Text) (old : Option Text) (path : Text) : Except Refusal (Option Text) :=
  match setOnce shown old path with
  | .error e => .error e
  | .ok new => if path = [] then .error (.usage (.missingValue shown)) else .ok new

def switchOn (shown : Text) (old : Bool) : Except Refusal Bool :=
  if old then .error (.usage (.repeated shown)) else .ok true

namespace Settings

def applyFlag (s : Settings) (flag : Flag) : Except Refusal Settings :=
  match flag with
  | .font => do return { s with font := ← switchOn flag.shown s.font }
  | .listPresets => do return { s with listPresets := ← switchOn flag.shown s.listPresets }
  | .verbose => .ok { s with verbosity := s.verbosity + 1 }
  | .help => .error .help

def applySetting (s : Settings) (setting : Setting) (value : Text) : Except Refusal Settings :=
  match setting with
  | .preset => do return { s with preset := ← setOnce setting.shown s.preset value }
  | .template => do return { s with template := ← setPathOnce setting.shown s.template value }
  | .name => do return { s with name := ← setOnce setting.shown s.name value }
  | .tag =>
    match readTag? value with
    | some tag => .ok { s with tags := s.tags ++ [tag] }
    | none => .error (.usage (.malformedTag value))
  | .output => do return { s with output := ← setPathOnce setting.shown s.output value }

def addImages (s : Settings) (paths : List Text) : Except Refusal Settings :=
  if [] ∈ paths then .error (.usage (.missingValue imagesShown))
  else .ok { s with images := s.images ++ paths }

end Settings

end RasterText
