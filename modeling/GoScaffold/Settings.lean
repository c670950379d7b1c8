import GoScaffold.Artifact.Server
import GoScaffold.Document.Reading
import GoScaffold.FileTree
import GoScaffold.Formatter
import GoScaffold.Yaml.Reader

/-! Settings of a run: where the files go, what they are made from, and which of them are made. A
file in the project can give them, and a command line can override some. -/

namespace GoScaffold

inductive FormatterKind where
  | builtIn
  | gofmt
deriving DecidableEq

structure Settings where
  version : Nat := 1
  outputDir : String := "."
  goModule : String := "example.com/app"
  templateDir : Option String := none
  angVersion : Option String := none
  inputHash : Option String := none
  compilerHash : Option String := none
  formatMode : FormatMode := .strict
  formatter : FormatterKind := .builtIn
  layout : Artifact.Layout := .monolith
  families : Option (List Family) := none
deriving DecidableEq

/-! Names of choices. -/

def FormatMode.name : FormatMode → String
  | .strict => "strict"
  | .lenient => "lenient"

def FormatMode.ofName? : String → Option FormatMode
  | "strict" => some .strict
  | "lenient" => some .lenient
  | _ => none

def FormatterKind.name : FormatterKind → String
  | .builtIn => "syntax"
  | .gofmt => "gofmt"

def FormatterKind.ofName? : String → Option FormatterKind
  | "syntax" => some .builtIn
  | "gofmt" => some .gofmt
  | _ => none

def Artifact.Layout.name : Artifact.Layout → String
  | .monolith => "monolith"
  | .microservices => "microservices"

def Artifact.Layout.ofName? : String → Option Artifact.Layout
  | "monolith" => some .monolith
  | "microservices" => some .microservices
  | _ => none

def Reading.choice {α : Type} (ofName? : String → Option α) : Reading α := fun depth d =>
  (Reading.name depth d).bind ofName?

namespace Settings

def keys : List FieldKey :=
  ["version", "output_dir", "go_module", "template_dir", "ang_version", "input_hash",
    "compiler_hash", "format_mode", "formatter", "layout", "families"]

def read : Reading Settings := fun depth d => do
  let f ← Fields.open? keys depth d
  return {
    version := ← f.read "version" .nat32 1
    outputDir := ← f.read "output_dir" .text "."
    goModule := ← f.read "go_module" .text "example.com/app"
    templateDir := ← f.optional "template_dir" .text
    angVersion := ← f.optional "ang_version" .text
    inputHash := ← f.optional "input_hash" .text
    compilerHash := ← f.optional "compiler_hash" .text
    formatMode := ← f.read "format_mode" (.choice FormatMode.ofName?) .strict
    formatter := ← f.read "formatter" (.choice FormatterKind.ofName?) .builtIn
    layout := ← f.read "layout" (.choice Artifact.Layout.ofName?) .monolith
    families := ← f.optional "families" (.list (.choice Family.ofName?)) }

def toJson (s : Settings) : Json := .obj
  [("version", .nat s.version), ("output_dir", .str s.outputDir), ("go_module", .str s.goModule),
    ("template_dir", .ofOption .str s.templateDir), ("ang_version", .ofOption .str s.angVersion),
    ("input_hash", .ofOption .str s.inputHash),
    ("compiler_hash", .ofOption .str s.compilerHash), ("format_mode", .str s.formatMode.name),
    ("formatter", .str s.formatter.name), ("layout", .str s.layout.name),
    ("families", .ofOption (fun fs => .strs (fs.map Family.name)) s.families)]

def fileName : String := "ang.yaml"

def load (tree : FileTree) (path : String) : Except Error Settings :=
  match tree.readText? path with
  | none => .error .io
  | some text =>
    match Yaml.decode? read text with
    | none => .error (.settings (.unreadable path))
    | some s => if s.version = 1 then .ok s else .error (.settings (.version path s.version))

def loadFromDir (tree : FileTree) (dir : String) : Except Error (Option Settings) :=
  let path := Path.join dir fileName
  if tree.has path then (load tree path).map some else .ok none

structure Overrides where
  outputDir : Option String := none
  goModule : Option String := none
  templateDir : Option String := none
  formatMode : Option FormatMode := none
  formatter : Option FormatterKind := none
  layout : Option Artifact.Layout := none
  families : Option (List Family) := none

def merge (s : Settings) (o : Overrides) : Settings :=
  { s with
    outputDir := o.outputDir.getD s.outputDir
    goModule := o.goModule.getD s.goModule
    templateDir := o.templateDir.or s.templateDir
    formatMode := o.formatMode.getD s.formatMode
    formatter := o.formatter.getD s.formatter
    layout := o.layout.getD s.layout
    families := o.families.or s.families }

def validate (tree : FileTree) (s : Settings) : Except Error Unit :=
  if Text.isBlankText s.goModule then .error (.settings .emptyModule)
  else if s.goModule.toList.any Text.isBlank then .error (.settings (.blankInModule s.goModule))
  else match s.templateDir with
    | none => .ok ()
    | some dir =>
      if tree.isDirectory dir then .ok () else .error (.settings (.noTemplateDir dir))

end Settings

end GoScaffold
