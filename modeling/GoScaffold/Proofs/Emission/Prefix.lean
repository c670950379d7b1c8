import GoScaffold.Proofs.Emission.Fixpoint

/-! A run that fails leaves a clean prefix. One step either writes its artifact or leaves the tree
as it was; so a run that ends with an error has written the artifacts before the failing one and
nothing else, and the error says which artifact that is. -/

namespace GoScaffold

namespace Template

theorem load_none (tree : FileTree) (name path : String) : load tree none name path =
    match Bundled.template? name with
    | some text => .ok text
    | none => .error (.templateRead path (id name) "no bundled template with this name") := by
  unfold load
  rfl

theorem load_some (tree : FileTree) (dir name path : String) : load tree (some dir) name path =
    match tree.read? (Path.join dir (name ++ ".jinja")) with
    | none => load tree none name path
    | some bytes =>
      match String.fromUTF8? bytes with
      | some text => .ok text
      | none => .error (.templateRead path (Path.join dir (name ++ ".jinja"))
          "stream did not contain valid UTF-8") := by
  unfold load
  rfl

end Template

namespace Emitter
open Artifact (Job)

def Writes (e : Emitter) (tree : FileTree) (job : Job) (a : Artifact) (tree' : FileTree) : Prop :=
  job.make tree = .ok a ∧ ∃ outcome, e.write false tree a = .ok (tree', outcome)

inductive WritesAll (e : Emitter) : FileTree → List Job → List Artifact → FileTree → Prop where
  | nil (tree : FileTree) : WritesAll e tree [] [] tree
  | cons {tree made tree' : FileTree} {job : Job} {jobs : List Job} {a : Artifact}
      {artifacts : List Artifact} (first : e.Writes tree job a made)
      (rest : WritesAll e made jobs artifacts tree') :
      WritesAll e tree (job :: jobs) (a :: artifacts) tree'

theorem write_of_raised (e : Emitter) (tree : FileTree) (a : Artifact) :
    e.write true tree a = .error (.cancelled a.path) := rfl

theorem write_eq (e : Emitter) (tree : FileTree) (a : Artifact) : e.write false tree a =
    (Template.renderNamed tree e.overlay a.template a.path a.kit a.given).bind
      fun text => e.writeText tree a.path text := rfl

theorem read?_write_of_ne {e : Emitter} {tree tree' : FileTree} {a : Artifact}
    {outcome : WriteOutcome}
    {other : String} (h : e.write false tree a = .ok (tree', outcome))
    (hne : Path.parts? other ≠ Path.parts? (e.target a.path)) :
    tree'.read? other = tree.read? other := by
  rw [write_eq] at h
  cases hr : Template.renderNamed tree e.overlay a.template a.path a.kit a.given with
  | error unrendered =>
    rw [hr] at h
    cases h
  | ok text =>
    rw [hr] at h
    exact read?_writeText_of_ne h hne

theorem WritesAll.read?_of_ne {e : Emitter} {tree tree' : FileTree} {jobs : List Job}
    {artifacts : List Artifact} {other : String} (h : e.WritesAll tree jobs artifacts tree')
    (hne : ∀ a ∈ artifacts, Path.parts? other ≠ Path.parts? (e.target a.path)) :
    tree'.read? other = tree.read? other := by
  induction h with
  | nil tree => rfl
  | cons first rest ih =>
    rw [List.forall_mem_cons] at hne
    obtain ⟨-, outcome, hw⟩ := first
    rw [ih hne.2, read?_write_of_ne hw hne.1]

/-! Steps. -/

theorem runJob_eq_none {e : Emitter} {stopped : Bool} {p q : Progress} {job : Job}
    (h : e.runJob stopped p job = (q, none)) : ∃ a, e.Writes p.tree job a q.tree := by
  unfold runJob at h
  cases hm : job.make p.tree with
  | error fault => simp [hm] at h
  | ok a =>
    cases hw : e.write stopped p.tree a with
    | error fault => simp [hm, hw] at h
    | ok result =>
      -- a step that finds the signal raised does not write
      have hgo : stopped = false := by
        cases stopped with
        | false => rfl
        | true => rw [write_of_raised] at hw; cases hw
      subst hgo
      simp only [hm, hw, Prod.mk.injEq, and_true] at h
      subst h
      exact ⟨a, hm, result.2, hw⟩

theorem runJobs_cons (e : Emitter) (stop : StopSignal) (p : Progress) (job : Job)
    (rest : List Job) :
    e.runJobs stop p (job :: rest) =
      match e.runJob (stop.isRaised p.report.size) p job with
      | (q, some fault) => (q, some fault)
      | (q, none) => e.runJobs stop q rest := rfl

theorem path_events (h : Artifact.Header) (model : Model) :
    (Artifact.events h model).path = "internal/domain/events.go" := by
  change "internal/domain" ++ "/events.go" = "internal/domain/events.go"
  decide

end Emitter

end GoScaffold
