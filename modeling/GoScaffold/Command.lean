import GoScaffold.Emission
import GoScaffold.Schema.Source
import GoScaffold.Settings.Description

/-! The command line: what each command prints, and what becomes of the files. -/

namespace GoScaffold.Command

structure Outcome where
  code : Nat := 0
  output : String := ""
  complaints : String := ""
  tree : FileTree

def usage : String := Text.unlines [
  "",
  "ang-codegen - Go backend emitter for ang schemas",
  "",
  "USAGE:",
  "    ang-codegen <COMMAND> [OPTIONS]",
  "",
  "COMMANDS:",
  "    emit <schema.json|yaml>          Generate the backend tree",
  "    families                         List artifact families in emission order",
  "    schema                           Print the JSON schema of ang.yaml",
  "    version                          Print the generator version",
  "",
  "EMIT OPTIONS:",
  "    --config <file>                  Config file (default: ./ang.yaml when present)",
  "    --out <dir>                      Output root",
  "    --module <path>                  Go module path",
  "    --templates <dir>                Template overlay directory",
  "    --lenient                        Write unparsable output as-is instead of failing",
  "    --gofmt                          Format with an external gofmt",
  "    --micro                          One main per service instead of one server",
  "    --only <a,b,...>                 Emit only these families",
  "",
  "LOGGING:",
  "    RUST_LOG=debug ang-codegen emit schema.json",
  "",
  "EXAMPLES:",
  "    ang-codegen emit schema.json --out backend --module github.com/acme/market",
  "    ang-codegen emit schema.yaml --micro --only service_main,contract_tests",
  ""]

def flagValue (flag : String) : List String → Option String
  | [] => none
  | a :: rest => if a == flag then rest.head? else flagValue flag rest

def families (list : String) : Except Error (List Family) :=
  (((Text.split ',' list).map Text.trim).filter (!·.isEmpty)).mapM fun name =>
    match Family.ofName? name with
    | some f => .ok f
    | none => .error (.settings (.unknownFamily name))

def overrides (args : List String) : Except Error Settings.Overrides := do
  let only ← match flagValue "--only" args with
    | some list => (families list).map some
    | none => .ok none
  return {
    outputDir := flagValue "--out" args
    goModule := flagValue "--module" args
    templateDir := flagValue "--templates" args
    formatMode := if args.contains "--lenient" then some .lenient else none
    formatter := if args.contains "--gofmt" then some .gofmt else none
    layout := if args.contains "--micro" then some .microservices else none
    families := only }

def fileSettings (tree : FileTree) (args : List String) : Except Error Settings :=
  match flagValue "--config" args with
  | some path => Settings.load tree path
  | none => (Settings.loadFromDir tree ".").map (·.getD {})

def settings (tree : FileTree) (args : List String) : Except Error Settings := do
  let base ← fileSettings tree args
  let merged := base.merge (← overrides args)
  merged.validate tree
  return merged

def schemaPath? (args : List String) : Option String :=
  args.head?.filter fun a => !Text.startsWith a "--"

def summary (outputDir : String) (g : Generation) : String :=
  let first := outputDir ++ ": " ++ toString g.report.written.length ++ " written, " ++
    toString g.report.unchanged.length ++ " unchanged (" ++ g.stamp.inputHash ++ ")"
  let missing :=
    if g.missing.isEmpty then []
    else "" :: (toString g.missing.length ++ " method(s) have no implementation; " ++
        "fill the ANG:BEGIN_CUSTOM regions or add a .manual.go override:") ::
      g.missing.map fun m => "  - " ++ m.describe
  Text.unlines (first :: g.report.written.map ("  + " ++ ·) ++ missing)

def failure (tree : FileTree) (e : Error) : Outcome :=
  { code := 1, complaints := "Error: " ++ e.message ++ "\n", tree }

def emit (tree : FileTree) (args : List String) : Outcome :=
  let inputs : Except Error (Settings × Schema) := do
    match schemaPath? args with
    | none => .error (.settings .noSchema)
    | some path =>
      let s ← settings tree args
      return (s, ← Schema.load tree path)
  match inputs with
  | .error e => failure tree e
  | .ok (s, schema) =>
    match Generation.run tree schema s false with
    | (tree, .error e) => failure tree e
    | (tree, .ok g) => { output := summary s.outputDir g, tree }

def familyTable : String :=
  Text.unlines (Family.all.map fun f =>
    f.name ++ String.ofList (List.replicate (18 - f.name.length) ' ') ++ " " ++
      Template.id f.template)

def run (tree : FileTree) : List String → Outcome
  | [] => { code := 1, output := usage, tree }
  | name :: args =>
    match name with
    | "emit" => emit tree args
    | "families" => { output := familyTable, tree }
    | "schema" => { output := Settings.description.pretty ++ "\n", tree }
    | "version" | "--version" | "-v" =>
      { output := "ang-codegen " ++ Stamp.currentVersion ++ "\n", tree }
    | "help" | "--help" | "-h" => { output := usage, tree }
    | _ =>
      let failed := failure tree (.settings (.unknownCommand name))
      { failed with
        output := usage
        complaints := "Unknown command: " ++ name ++ "\n" ++ failed.complaints }

/-- The files that a command may look at, as far as the files known so far tell. -/
def lookups (tree : FileTree) : List String → List String
  | "emit" :: args =>
    let given := (flagValue "--config" args).toList ++ [Path.join "." Settings.fileName] ++
      (schemaPath? args).toList
    let found : Except Error (List String) := do
      let base ← fileSettings tree args
      let s := base.merge (← overrides args)
      let schema ← match schemaPath? args with
        | some path => Schema.load tree path
        | none => .error (.settings .noSchema)
      let (model, emitter, _) ← Generation.prepare schema s
      return s.templateDir.toList ++ emitter.lookups tree model
    given ++ match found with
      | .ok paths => paths
      | .error _ => []
  | _ => []

end GoScaffold.Command
