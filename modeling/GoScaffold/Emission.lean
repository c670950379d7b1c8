import GoScaffold.Artifact.Domain
import GoScaffold.Artifact.Repository
import GoScaffold.Artifact.Server
import GoScaffold.Formatter
import GoScaffold.Region
import GoScaffold.Schema.Version
import GoScaffold.Settings
import GoScaffold.Template.Source

/-! Emission: artifacts are made one after another and written into a tree of files. What is written
by hand inside the regions of a file stays when the file is made again, and a file that would not
change is not written. The first error ends a run, and what was written before it stays. -/

namespace GoScaffold

structure Emitter where
  header : Artifact.Header
  outputDir : String
  /-- A directory whose templates go before the bundled ones. -/
  overlay : Option String
  layout : Artifact.Layout
  families : Option (List Family)
  processor : PostProcessor

structure Report where
  written : List String := []
  unchanged : List String := []
deriving DecidableEq

namespace Report

def size (r : Report) : Nat := r.written.length + r.unchanged.length

def isEmpty (r : Report) : Bool := r.size == 0

def add (r : Report) (path : String) : WriteOutcome → Report
  | .written => { r with written := r.written ++ [path] }
  | .unchanged => { r with unchanged := r.unchanged ++ [path] }

end Report

/-- A signal to stop. Once raised it stays so. -/
structure StopSignal where
  /-- How many artifacts there are when it is raised; none if it never is. -/
  after : Option Nat

namespace StopSignal

def isRaised (s : StopSignal) (made : Nat) : Bool := s.after.any (· ≤ made)

def ofBool (raised : Bool) : StopSignal := ⟨if raised then some 0 else none⟩

instance : Coe Bool StopSignal := ⟨ofBool⟩

end StopSignal

structure Progress where
  tree : FileTree
  audit : Audit := {}
  report : Report := {}

namespace Emitter

def formatterOf : FormatterKind → Formatter
  | .builtIn => .checked
  | .gofmt => .missing

def ofSettings (s : Settings) (stamp : Stamp) : Emitter :=
  { header := { module := s.goModule, stamp }
    outputDir := s.outputDir
    overlay := s.templateDir
    layout := s.layout
    families := s.families
    processor := { formatter := formatterOf s.formatter, mode := s.formatMode } }

def jobs (e : Emitter) (model : Model) : Family → List Artifact.Job
  | .domain => (Artifact.domain e.header model).map Artifact.job
  | .dto => (Artifact.dto e.header model).map Artifact.job
  | .events => [Artifact.job (Artifact.events e.header model)]
  | .servicePorts => (Artifact.servicePorts e.header model).map Artifact.job
  | .repositoryPorts => (Artifact.repositoryPorts e.header model).map Artifact.job
  | .serviceImpls => Artifact.serviceImpls e.header e.outputDir model
  | .cachedServices => (Artifact.cachedServices e.header model).map Artifact.job
  | .mongoRepos => Artifact.mongoRepos e.header model
  | .mongoHelpers => (Artifact.mongoHelpers e.header model).map Artifact.job
  | .stubRepos => (Artifact.stubRepos e.header model).map Artifact.job
  | .repoMocks => (Artifact.repoMocks e.header model).map Artifact.job
  | .contractTests => [Artifact.job (Artifact.contractTests e.header model)]
  | .serviceMain => (Artifact.serviceMains e.header e.layout model).map Artifact.job

def target (e : Emitter) (path : String) : String := Path.join e.outputDir path

/-- The bytes to leave where a file may hold others: the generated text with the regions that are
filled in the file. Bytes that are no text have no regions. -/
def mergeRegions (onDisk : Option ByteArray) (generated : ByteArray) : ByteArray :=
  match onDisk.bind String.fromUTF8?, String.fromUTF8? generated with
  | some old, some new => (Region.merge new old).toUTF8
  | _, _ => generated

def writeText (e : Emitter) (tree : FileTree) (path text : String) :
    Except Error (FileTree × WriteOutcome) := do
  let formatted ← e.processor.process text.toUTF8 path
  let target := e.target path
  tree.writeIfChanged target (mergeRegions (tree.read? target) formatted)

def write (e : Emitter) (cancelled : Bool) (tree : FileTree) (a : Artifact) :
    Except Error (FileTree × WriteOutcome) := do
  if cancelled then throw (.cancelled a.path)
  let text ← Template.renderNamed tree e.overlay a.template a.path a.kit a.given
  e.writeText tree a.path text

def runJob (e : Emitter) (cancelled : Bool) (p : Progress) (job : Artifact.Job) :
    Progress × Option Error :=
  let p := { p with audit := p.audit.recordAll (job.missing p.tree) }
  match job.make p.tree with
  | .error fault => (p, some fault)
  | .ok a =>
    match e.write cancelled p.tree a with
    | .error fault => (p, some fault)
    | .ok (tree, outcome) => ({ p with tree, report := p.report.add a.path outcome }, none)

/-- Takes steps until one fails. The signal is looked at before every step. -/
def runJobs (e : Emitter) (stop : StopSignal) (p : Progress) :
    List Artifact.Job → Progress × Option Error
  | [] => (p, none)
  | job :: rest =>
    match e.runJob (stop.isRaised p.report.size) p job with
    | (p, some fault) => (p, some fault)
    | (p, none) => e.runJobs stop p rest

def emit (e : Emitter) (stop : StopSignal) (model : Model) (p : Progress) (family : Family) :
    Progress × Option Error :=
  e.runJobs stop p (e.jobs model family)

def selected (e : Emitter) : List Family :=
  match e.families with
  | none => Family.all
  | some only => Family.all.filter only.contains

def emitAll (e : Emitter) (stop : StopSignal) (model : Model) (p : Progress) :
    Progress × Option Error :=
  e.runJobs stop p (e.selected.flatMap (e.jobs model))

def lookups (e : Emitter) (tree : FileTree) (model : Model) : List String :=
  let templates := match e.overlay with
    | some dir => Bundled.templates.map fun t => Path.join dir (t.1 ++ ".jinja")
    | none => []
  let manual := model.services.map fun s => Override.manualPath e.outputDir s.name
  let targets := (e.selected.flatMap (e.jobs model)).filterMap fun job =>
    match job.make tree with
    | .ok a => some (e.target a.path)
    | .error _ => none
  templates ++ manual ++ targets

end Emitter

structure Generation where
  report : Report
  stamp : Stamp
  missing : List MissingMethod

namespace Generation

/-- The model and the emitter of a schema. Services must not depend on what is not there, or in a
circle. -/
def prepare (schema : Schema) (settings : Settings) : Except Error (Model × Emitter × Stamp) := do
  let schema ← schema.migrate
  let model := Model.ofSchema schema
  match checkDependencies (model.services.map Model.Service.dependent) with
  | .error fault => .error (.dependencies fault)
  | .ok _ =>
    let stamp := Stamp.resolve schema settings.angVersion settings.inputHash settings.compilerHash
    .ok (model, .ofSettings settings stamp, stamp)

/-- Generates all that the settings ask for. The tree is as the run left it, even if it failed. -/
def run (tree : FileTree) (schema : Schema) (settings : Settings) (stop : StopSignal) :
    FileTree × Except Error Generation :=
  match prepare schema settings with
  | .error fault => (tree, .error fault)
  | .ok (model, emitter, stamp) =>
    match emitter.emitAll stop model { tree } with
    | (p, some fault) => (p.tree, .error fault)
    | (p, none) => (p.tree, .ok { report := p.report, stamp, missing := p.audit.entries })

end Generation

end GoScaffold
