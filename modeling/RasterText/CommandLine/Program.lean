import RasterText.CommandLine.Arguments
import RasterText.Preset.Loading
import RasterText.Items.Loading
import RasterText.Document.Convert
import RasterText.Report.Nesting
import RasterText.Text.Terminal
set_option autoImplicit false

namespace RasterText

structure Outcome where
  /-- Zero for success, one for a failed run and two for a refused command line. -/
  status : Nat
  output : Text
  errors : Text
  deriving DecidableEq, Repr

namespace Outcome

def success (output : Text) : Outcome := ⟨0, output, []⟩

def failure (message : Text) : Outcome := ⟨1, [], "Error: ".toList ++ message ++ ['\n']⟩

/-- A failed run with reports that end their lines themselves. -/
def reported (reports : Text) : Outcome := ⟨1, [], reports⟩

/-- A refused command line. Of the message for a terminal, what is visible is left. -/
def refused (error : UsageError) : Outcome :=
  ⟨2, [], (Paint.red.apply "error:".toList ++ [' '] ++ error.message ++
    "\n\nFor more information, try '".toList ++ markPart Flag.help.shown ++
    "'.\n".toList).visible⟩

end Outcome

inductive RunError where
  | preset (nameOrPath : Text) (error : PresetError)
  | images (error : LoadError)
  | document (error : RenderError)
  | output (path : Text) (fault : Fault)
  deriving DecidableEq, Repr

def RunError.message : RunError → Text
  | preset nameOrPath error =>
    "loading preset '".toList ++ nameOrPath ++ "': ".toList ++ error.message
  | images error => error.message
  | document error => error.message
  | output path fault => "writing '".toList ++ path ++ "': ".toList ++ fault.message

namespace Settings

def presetName (s : Settings) : Text := s.preset.getD Preset.monochrome.name

/-- The name of the document, which is that of the first image unless another is given. -/
def documentName (s : Settings) : Text :=
  s.name.getD ((s.images.head?.bind stemOf?).getD "image".toList)

def kind (s : Settings) : DocumentKind := if s.font then .font else .image

def config (s : Settings) (preset : Preset) : ConvertConfig :=
  s.tags.foldl (fun c tag => c.withTag tag.1 tag.2)
    (ConvertConfig.withDocumentName { preset, kind := s.kind, template := s.template }
      s.documentName)

end Settings

variable {m : Type → Type} [Monad m] [FileAccess m]

/-- The reports on the faults of a template. If it cannot be read again, they are short. -/
def reportFaults (c : ConvertConfig) (faults : List NestedBlock) : m Text := do
  match ← loadTemplate c.templatePath c.kind with
  | .ok body => return faults.flatMap fun e => e.report body.text body.origin
  | .error _ =>
    return faults.flatMap fun e =>
      "Error in ".toList ++ c.templatePath.getD [] ++ ": ".toList ++ e.message ++ ['\n']

def failedConversion (c : ConvertConfig) : RenderError → m Outcome
  | .parse faults => do return .reported (← reportFaults c faults)
  | error => return .failure (RunError.document error).message

def deliver (path? : Option Text) (document : Text) : m Outcome := do
  match path? with
  | none => return .success document
  | some path =>
    match ← FileAccess.write path (Text.utf8 document) with
    | .ok () => return .success []
    | .error fault => return .failure (RunError.output path fault).message

def Settings.makeDocument (s : Settings) (preset : Preset) (items : Collection) : m Outcome := do
  let config := s.config preset
  match ← convert items.source config with
  | .ok document => deliver s.output document
  | .error error => failedConversion config error

def Settings.run (s : Settings) (reader : ImageReader) : m Outcome := do
  if s.listPresets then
    return .success (Preset.builtinNames.flatMap fun name => name ++ ['\n'])
  match ← Preset.find s.presetName with
  | .error error => return .failure (RunError.preset s.presetName error).message
  | .ok preset =>
    match ← Collection.empty.load reader s.images with
    | .error error => return .failure (RunError.images error).message
    | .ok items => s.makeDocument preset items

def helpText : Text :=
  "\n".toList.intercalate (List.map String.toList [
    "Convert images and font glyphs into source code",
    "",
    "Usage: [OPTIONS] [IMAGES]...",
    "",
    "Arguments:",
    "  [IMAGES]...  Image files; stems such as U+0416 or 0x41 name font characters",
    "",
    "Options:",
    "  -p, --preset <NAME|FILE>   Built-in preset name or preset file [default: monochrome]",
    "  -t, --template <TEMPLATE>  Template file",
    "  -f, --font                 Produce a font with a character table",
    "  -n, --name <NAME>          Document name, defaults to the first image's file stem",
    "      --tag <KEY=VALUE>      Extra template tag",
    "  -o, --output <OUTPUT>      Output file (writes to stdout if not provided)",
    "      --list-presets         List built-in presets",
    "  -v, --verbose...           Increase log verbosity",
    "  -h, --help                 Print help",
    ""])

/-- Runs the program with the arguments of a command line. -/
def runProgram (reader : ImageReader) (arguments : List Text) : m Outcome :=
  match Settings.ofArguments arguments with
  | .ok settings => settings.run reader
  | .error .help => return .success helpText
  | .error (.usage error) => return .refused error

end RasterText
