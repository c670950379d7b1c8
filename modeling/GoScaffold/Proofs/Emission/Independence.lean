import GoScaffold.Proofs.Emission.Collisions
import Mathlib.Data.List.Flatten

/-! Artifacts do not depend on each other. The bytes that a step leaves in its file are determined
by what this file held, by the overlay's template and by the methods written by hand. Steps whose
files are at different places, none of them a file that is read so, leave the same bytes in any
selection and any order. -/

namespace GoScaffold

theorem Override.methods_congr {t t' : FileTree} {dir service : String}
    (h : t.read? (manualPath dir service) = t'.read? (manualPath dir service)) :
    methods t dir service = methods t' dir service := by
  unfold methods FileTree.readText?
  rw [h]

theorem Template.load_congr {t t' : FileTree} {overlay : Option String} {name : String}
    (h : ∀ dir ∈ overlay, t.read? (Path.join dir (name ++ ".jinja")) =
      t'.read? (Path.join dir (name ++ ".jinja"))) (path : String) :
    load t overlay name path = load t' overlay name path := by
  cases overlay with
  | none => rfl
  | some dir => rw [load_some, load_some, h dir rfl, load_none, load_none]

namespace Emitter

open Artifact (Job)

theorem exists_of_bind_eq_ok {α β : Type} {x : Except Error α} {f : α → Except Error β} {b : β}
    (h : x >>= f = .ok b) : ∃ a, x = .ok a ∧ f a = .ok b := by
  cases x with
  | error fault => cases h
  | ok a => exact ⟨a, rfl, h⟩

def place (e : Emitter) (path : String) : Option (List String) := Path.parts? (e.target path)

def places (e : Emitter) (model : Model) : List (Option (List String)) :=
  (Family.all.flatMap (Artifact.paths e.layout model)).map e.place

/-- The files that steps read besides those of their artifacts: methods that are written by hand,
and the overlay's templates. -/
def sources (e : Emitter) (model : Model) : List String :=
  model.services.map (fun s => Override.manualPath e.outputDir s.name) ++
    e.overlay.toList.flatMap fun dir => Family.all.map fun f =>
      Path.join dir (f.template ++ ".jinja")

/-- The artifacts of a model go to different places, and none of them to a file that steps read. -/
structure Separate (e : Emitter) (model : Model) : Prop where
  places : (e.places model).Nodup
  sources : ((e.sources model).map Path.parts?).Disjoint (e.places model)

def SameSources (e : Emitter) (model : Model) (t t' : FileTree) : Prop :=
  ∀ source ∈ e.sources model, t.read? source = t'.read? source

theorem manualPath_mem_sources {e : Emitter} {model : Model} {s : Model.Service}
    (hs : s ∈ model.services) : Override.manualPath e.outputDir s.name ∈ e.sources model :=
  List.mem_append_left _ (List.mem_map_of_mem hs)

theorem template_mem_sources {e : Emitter} (model : Model) {dir : String} (hdir : dir ∈ e.overlay)
    (f : Family) : Path.join dir (f.template ++ ".jinja") ∈ e.sources model := by
  apply List.mem_append_right
  exact List.mem_flatMap.2 ⟨dir, Option.mem_toList.2 hdir, List.mem_map.2 ⟨f, f.mem_all, rfl⟩⟩

def product (e : Emitter) (tree : FileTree) (job : Job) : Except Error (String × ByteArray) := do
  let a ← job.make tree
  let text ← Template.renderNamed tree e.overlay a.template a.path a.kit a.given
  let formatted ← e.processor.process text.toUTF8 a.path
  return (a.path, mergeRegions (tree.read? (e.target a.path)) formatted)

variable {e : Emitter} {model : Model} {family : Family} {job : Job} {jobs : List Job}
  {t t' tree tree' part : FileTree} {a : Artifact} {artifacts : List Artifact}
  {path : String} {paths : List String}

theorem template_of_make (hjob : job ∈ e.jobs model family) (h : job.make tree = .ok a) :
    a.template = family.template := by
  cases family with
  | domain | dto | servicePorts | repositoryPorts | cachedServices | stubRepos | repoMocks
  | serviceMain =>
    obtain ⟨made, hmade, rfl⟩ := List.mem_map.1 hjob
    obtain ⟨subject, -, rfl⟩ := List.mem_map.1 hmade
    exact Except.ok.inj h ▸ rfl
  | events | contractTests =>
    obtain rfl := List.mem_singleton.1 hjob
    exact Except.ok.inj h ▸ rfl
  | serviceImpls =>
    obtain ⟨service, -, rfl⟩ := List.mem_map.1 hjob
    exact Except.ok.inj h ▸ rfl
  | mongoHelpers =>
    obtain ⟨made, hmade, rfl⟩ := List.mem_map.1 hjob
    rw [Artifact.mongoHelpers] at hmade
    split at hmade
    · cases hmade
    · obtain rfl := List.mem_singleton.1 hmade
      exact Except.ok.inj h ▸ rfl
  | mongoRepos =>
    obtain ⟨⟨repo, entity⟩, -, rfl⟩ := List.mem_map.1 hjob
    obtain ⟨page, -, h⟩ := exists_of_bind_eq_ok h
    exact Except.ok.inj h ▸ rfl

theorem make_congr (hjob : job ∈ e.jobs model family) (hsame : e.SameSources model t t') :
    job.make t = job.make t' := by
  cases family with
  | serviceImpls =>
    obtain ⟨service, hservice, rfl⟩ := List.mem_map.1 hjob
    show Except.ok (Artifact.implArtifact _ _ (Override.methods t _ _)) = _
    rw [Override.methods_congr (hsame _ (manualPath_mem_sources hservice))]
  | events | contractTests =>
    obtain rfl := List.mem_singleton.1 hjob
    rfl
  | domain | dto | servicePorts | repositoryPorts | cachedServices | mongoRepos | mongoHelpers
  | stubRepos | repoMocks | serviceMain =>
    obtain ⟨subject, -, rfl⟩ := List.mem_map.1 hjob
    rfl

theorem product_congr (hjob : job ∈ e.jobs model family) (hgoes : job.GoesTo path)
    (hsame : e.SameSources model t t') (hown : t.read? (e.target path) = t'.read? (e.target path)) :
    e.product t job = e.product t' job := by
  unfold product
  rw [make_congr hjob hsame]
  cases hmake : job.make t' with
  | error fault => rfl
  | ok a =>
    obtain rfl : a.path = path := hgoes t' a hmake
    have hload : Template.load t e.overlay a.template a.path =
        Template.load t' e.overlay a.template a.path := by
      rw [template_of_make hjob hmake]
      exact Template.load_congr (fun dir hdir => hsame _ (template_mem_sources model hdir family)) _
    have hrender : Template.renderNamed t e.overlay a.template a.path a.kit a.given =
        Template.renderNamed t' e.overlay a.template a.path a.kit a.given := by
      unfold Template.renderNamed
      rw [hload]
    simp only [bind, Except.bind, hrender, hown]

theorem product_of_writes (h : e.Writes tree job a tree') :
    ∃ bytes, e.product tree job = .ok (a.path, bytes) ∧
      tree'.read? (e.target a.path) = some bytes := by
  obtain ⟨hmake, outcome, hwrite⟩ := h
  obtain ⟨text, hrender, hwrite⟩ := exists_of_bind_eq_ok hwrite
  obtain ⟨formatted, hprocess, hwrite⟩ := writeText_eq_ok hwrite
  refine ⟨_, ?_, FileTree.read?_writeIfChanged hwrite⟩
  simp only [product, hmake, bind, Except.bind, hrender, hprocess]
  rfl

theorem path_of_product (hgoes : job.GoesTo path) {made : String} {bytes : ByteArray}
    (h : e.product tree job = .ok (made, bytes)) : made = path := by
  obtain ⟨a, hmake, h⟩ := exists_of_bind_eq_ok h
  obtain ⟨text, -, h⟩ := exists_of_bind_eq_ok h
  obtain ⟨formatted, -, h⟩ := exists_of_bind_eq_ok h
  exact (Prod.mk.inj (Except.ok.inj h)).1 ▸ hgoes tree a hmake

/-- The file of the artifact of a step holds what the step would leave there first. -/
def Leaves (e : Emitter) (tree tree' : FileTree) (job : Job) : Prop :=
  ∃ path bytes, e.product tree job = .ok (path, bytes) ∧ tree'.read? (e.target path) = some bytes

theorem sameSources_of_writes (hsep : e.Separate model) (hplace : e.place a.path ∈ e.places model)
    (h : e.Writes tree job a tree') : e.SameSources model tree' tree := by
  obtain ⟨-, outcome, hwrite⟩ := h
  intro source hsource
  apply read?_write_of_ne hwrite
  intro heq
  exact hsep.sources (List.mem_map_of_mem hsource) (heq ▸ hplace)

theorem paths_of_writesAll (h : e.WritesAll tree jobs artifacts tree')
    (hgoes : List.Forall₂ Job.GoesTo jobs paths) : artifacts.map Artifact.path = paths := by
  induction h generalizing paths with
  | nil tree =>
    cases hgoes
    rfl
  | cons first rest ih =>
    obtain _ | ⟨hfirst, hrest⟩ := hgoes
    rw [List.map_cons, hfirst _ _ first.1, ih hrest]

theorem exists_of_forall₂ {α β : Type} {r : α → β → Prop} {xs : List α} {ys : List β} {x : α}
    (h : List.Forall₂ r xs ys) (hx : x ∈ xs) : ∃ y ∈ ys, r x y := by
  induction h with
  | nil => cases hx
  | @cons first y xs ys hfirst _ ih =>
    rcases List.mem_cons.1 hx with rfl | hx
    · exact ⟨y, List.mem_cons_self, hfirst⟩
    · obtain ⟨later, hmem, hlater⟩ := ih hx
      exact ⟨later, List.mem_cons_of_mem y hmem, hlater⟩

/-- Steps to different places leave what each of them would leave first. -/
theorem leaves_of_writesAll (hsep : e.Separate model) (h : e.WritesAll tree jobs artifacts tree')
    (hgoes : List.Forall₂ Job.GoesTo jobs paths)
    (hpaths : ∀ path ∈ paths, e.place path ∈ e.places model)
    (hjobs : ∀ job ∈ jobs, ∃ family, job ∈ e.jobs model family)
    (hplaces : (paths.map e.place).Nodup) : ∀ job ∈ jobs, e.Leaves tree tree' job := by
  induction h generalizing paths with
  | nil tree => exact fun job hjob => absurd hjob List.not_mem_nil
  | @cons tree made tree' job jobs a artifacts first rest ih =>
    cases hgoes with
    | @cons _ path _ paths hfirst hrest =>
      obtain rfl : a.path = path := hfirst tree a first.1
      rw [List.forall_mem_cons] at hpaths hjobs ⊢
      rw [List.map_cons, List.nodup_cons] at hplaces
      have hne : ∀ later ∈ paths, e.place later ≠ e.place a.path := by
        intro later hlater heq
        exact hplaces.1 (List.mem_map.2 ⟨later, hlater, heq⟩)
      constructor
      · -- the later steps leave the first file alone
        obtain ⟨bytes, hproduct, hread⟩ := product_of_writes first
        refine ⟨a.path, bytes, hproduct, ?_⟩
        rw [rest.read?_of_ne, hread]
        intro b hb
        have hmem : b.path ∈ paths := paths_of_writesAll rest hrest ▸ List.mem_map_of_mem hb
        exact (hne b.path hmem).symm
      · -- the later steps find all that they read as it was before the first
        intro later hlater
        obtain ⟨path, bytes, hproduct, hread⟩ :=
          ih hrest hpaths.2 hjobs.2 hplaces.2 later hlater
        obtain ⟨own, hown, hgoes⟩ := exists_of_forall₂ hrest hlater
        obtain ⟨family, hfamily⟩ := hjobs.2 later hlater
        have hsame := sameSources_of_writes hsep hpaths.1 first
        obtain ⟨-, outcome, hwrite⟩ := first
        have hkept := read?_write_of_ne hwrite (hne own hown)
        exact ⟨path, bytes, product_congr hfamily hgoes hsame hkept ▸ hproduct, hread⟩

inductive EmitsEach (e : Emitter) (model : Model) : FileTree → List Family → FileTree → Prop where
  | nil (tree : FileTree) : EmitsEach e model tree [] tree
  | cons {p q : Progress} {stop : StopSignal} {family : Family} {families : List Family}
      {tree : FileTree} (first : e.emit stop model p family = (q, none))
      (rest : EmitsEach e model q.tree families tree) :
      EmitsEach e model p.tree (family :: families) tree

theorem writesAll_of_runJobs {stop : StopSignal} {p q : Progress}
    (h : e.runJobs stop p jobs = (q, none)) :
    ∃ artifacts, e.WritesAll p.tree jobs artifacts q.tree := by
  induction jobs generalizing p with
  | nil =>
    obtain rfl : p = q := congrArg Prod.fst h
    exact ⟨[], .nil _⟩
  | cons job rest ih =>
    rw [runJobs_cons] at h
    rcases hj : e.runJob (stop.isRaised p.report.size) p job with ⟨made, _ | fault⟩
    · rw [hj] at h
      obtain ⟨a, hfirst⟩ := runJob_eq_none hj
      obtain ⟨artifacts, hrest⟩ := ih h
      exact ⟨a :: artifacts, .cons hfirst hrest⟩
    · rw [hj] at h
      cases h

theorem WritesAll.append {later : List Job} {more : List Artifact}
    (h : e.WritesAll tree jobs artifacts t) (hlater : e.WritesAll t later more tree') :
    e.WritesAll tree (jobs ++ later) (artifacts ++ more) tree' := by
  induction h with
  | nil tree => exact hlater
  | cons first rest ih => exact .cons first (ih hlater)

theorem writesAll_of_emitsEach {families : List Family}
    (h : e.EmitsEach model tree families tree') :
    ∃ artifacts, e.WritesAll tree (families.flatMap (e.jobs model)) artifacts tree' := by
  induction h with
  | nil tree => exact ⟨[], .nil tree⟩
  | cons first rest ih =>
    obtain ⟨artifacts, hfirst⟩ := writesAll_of_runJobs first
    obtain ⟨more, hrest⟩ := ih
    exact ⟨artifacts ++ more, hfirst.append hrest⟩

theorem nodup_places_of_nodup (hsep : e.Separate model) {families : List Family}
    (h : families.Nodup) :
    ((families.flatMap (Artifact.paths e.layout model)).map e.place).Nodup := by
  obtain ⟨ordered, hperm, hsub⟩ := List.subperm_of_subset h fun f _ => Family.mem_all f
  have hordered := hsep.places.sublist ((hsub.flatMap (Artifact.paths e.layout model)).map e.place)
  exact ((hperm.flatMap_right (Artifact.paths e.layout model)).map e.place).nodup_iff.1 hordered

theorem leaves_of_families (hsep : e.Separate model) {families : List Family}
    (hnodup : families.Nodup)
    (h : e.WritesAll tree (families.flatMap (e.jobs model)) artifacts tree') :
    ∀ job ∈ families.flatMap (e.jobs model), e.Leaves tree tree' job := by
  apply leaves_of_writesAll hsep h (Artifact.forall₂_goesTo_flatMap e model families)
  · intro path hpath
    obtain ⟨family, -, hpath⟩ := List.mem_flatMap.1 hpath
    exact List.mem_map_of_mem (List.mem_flatMap.2 ⟨family, family.mem_all, hpath⟩)
  · intro job hjob
    obtain ⟨family, -, hjob⟩ := List.mem_flatMap.1 hjob
    exact ⟨family, hjob⟩
  · exact nodup_places_of_nodup hsep hnodup

theorem runJobs_withFamilies (e : Emitter) (only : Option (List Family)) (stop : StopSignal)
    (p : Progress) (jobs : List Job) :
    { e with families := only }.runJobs stop p jobs = e.runJobs stop p jobs := by
  induction jobs generalizing p with
  | nil => rfl
  | cons job rest ih =>
    have hjob : { e with families := only }.runJob (stop.isRaised p.report.size) p job =
        e.runJob (stop.isRaised p.report.size) p job := rfl
    rw [runJobs_cons, runJobs_cons, hjob]
    rcases e.runJob (stop.isRaised p.report.size) p job with ⟨made, _ | fault⟩
    · exact ih made
    · rfl

theorem emitAll_all (e : Emitter) (stop : StopSignal) (model : Model) (p : Progress) :
    { e with families := none }.emitAll stop model p =
      e.runJobs stop p (Family.all.flatMap (e.jobs model)) := by
  have hjobs : { e with families := none }.jobs model = e.jobs model := by
    funext family
    cases family <;> rfl
  rw [emitAll, runJobs_withFamilies, hjobs]
  rfl

/-- For artifacts that go to different places, none of which is a file that emission reads, it does
not matter which families are emitted and in which order: the file of each artifact has the bytes
that a run over all families leaves there, and all other files are as they were. -/
theorem emitsEach_reads_emitAll (e : Emitter) (model : Model) (hsep : e.Separate model)
    (stop : StopSignal) (start full : Progress)
    (hfull : { e with families := none }.emitAll stop model start = (full, none))
    (families : List Family) (hnodup : families.Nodup) (part : FileTree)
    (hpart : e.EmitsEach model start.tree families part) :
    (∀ path ∈ families.flatMap (Artifact.paths e.layout model), ∃ bytes,
      part.read? (e.target path) = some bytes ∧ full.tree.read? (e.target path) = some bytes) ∧
    ∀ other, (∀ path ∈ families.flatMap (Artifact.paths e.layout model),
      Path.parts? other ≠ e.place path) → part.read? other = start.tree.read? other := by
  obtain ⟨made, hmade⟩ := writesAll_of_emitsEach hpart
  rw [emitAll_all] at hfull
  obtain ⟨madeAll, hmadeAll⟩ := writesAll_of_runJobs hfull
  have hgoes := Artifact.forall₂_goesTo_flatMap e model families
  constructor
  · intro path hpath
    obtain ⟨job, hjob, hto⟩ := exists_of_forall₂ hgoes.flip hpath
    have hjobAll : job ∈ Family.all.flatMap (e.jobs model) := by
      obtain ⟨family, -, hjob⟩ := List.mem_flatMap.1 hjob
      exact List.mem_flatMap.2 ⟨family, family.mem_all, hjob⟩
    obtain ⟨_, bytes, hproduct, hread⟩ := leaves_of_families hsep hnodup hmade job hjob
    obtain rfl := path_of_product hto hproduct
    obtain ⟨_, bytesAll, hproductAll, hreadAll⟩ :=
      leaves_of_families hsep (by decide) hmadeAll job hjobAll
    obtain ⟨rfl, rfl⟩ := Prod.mk.inj (Except.ok.inj (hproduct.symm.trans hproductAll))
    exact ⟨bytes, hread, hreadAll⟩
  · intro other hother
    apply hmade.read?_of_ne
    intro a ha
    exact hother a.path (paths_of_writesAll hmade hgoes ▸ List.mem_map_of_mem ha)

def orders : Model := Model.ofSchema { services := [{ name := "Orders" }] }

theorem separate_orders : labelling.Separate orders := by
  have hplaces : labelling.places orders = [
      some ["internal", "domain", "events.go"], some ["internal", "port", "orders.go"],
      some ["internal", "service", "orders.go"], some ["internal", "service", "orders_cached.go"],
      some ["tests", "contract", "contract_test.go"], some ["cmd", "server", "main.go"]] := by
    decide +kernel
  have hsources : (labelling.sources orders).map Path.parts? =
      some ["internal", "service", "orders.manual.go"] ::
        Family.all.map fun f => some ["t", f.template ++ ".jinja"] := by
    decide +kernel
  constructor
  · rw [hplaces]
    decide
  · rw [hplaces, hsources, List.disjoint_left]
    decide

theorem emitsEach_orders :
    ∃ part, labelling.EmitsEach orders labels [.serviceImpls, .events] part := by
  have hfirst : (labelling.emit ⟨none⟩ orders { tree := labels } .serviceImpls).2 = none := by
    rw [← Option.isNone_iff_eq_none]
    decide +kernel
  have hsecond : (labelling.emit ⟨none⟩ orders
      (labelling.emit ⟨none⟩ orders { tree := labels } .serviceImpls).1 .events).2 = none := by
    rw [← Option.isNone_iff_eq_none]
    decide +kernel
  exact ⟨_, .cons (p := { tree := labels }) (Prod.ext rfl hfirst)
    (.cons (Prod.ext rfl hsecond) (.nil _))⟩

theorem read?_label {text : String} (hleaves : labelling.Leaves labels part job)
    (hmake : job.make labels = .ok a) (hpath : a.path = path)
    (hrender : Template.renderNamed labels (some "t") a.template a.path a.kit a.given = .ok text)
    (hnew : labels.read? (labelling.target path) = none) :
    part.read? (labelling.target path) = some text.toUTF8 := by
  subst hpath
  obtain ⟨made, bytes, hproduct, hread⟩ := hleaves
  have hmade : labelling.product labels job = .ok (a.path, text.toUTF8) := by
    unfold product
    rw [hmake]
    show (Template.renderNamed labels (some "t") _ _ _ _).bind _ = _
    rw [hrender]
    show Except.ok (a.path, mergeRegions (labels.read? (labelling.target a.path)) text.toUTF8) = _
    rw [hnew]
    rfl
  obtain ⟨rfl, rfl⟩ := Prod.mk.inj (Except.ok.inj (hproduct.symm.trans hmade))
  exact hread

theorem read?_orders_service
    (hleaves : ∀ job ∈ labelling.jobs orders .serviceImpls, labelling.Leaves labels part job) :
    part.read? (labelling.target "internal/service/orders.go") =
    some "// Orders of m\n".toUTF8 := by
  obtain ⟨service, hservice, hname⟩ : ∃ s, s ∈ orders.services ∧ s.name = "Orders" :=
    ⟨Model.ofService [] { name := "Orders" },
      by simp [orders, Model.ofSchema, Model.sortOn, Model.dtoNames], rfl⟩
  refine read?_label (hleaves _ (List.mem_map_of_mem hservice)) rfl ?_ ?_ ?_
  · show Override.serviceDir ++ "/" ++ Artifact.fileStem service.name ++ ".go" = _
    rw [hname]
    decide
  · refine (renderNamed_label_impl .serviceImpls _ _).trans ?_
    rw [show (Artifact.implPage labelling.header service _).service.name = _ from hname]
    rfl
  · rw [← Option.isNone_iff_eq_none]
    decide +kernel

theorem read?_orders_events (hleaves : labelling.Leaves labels part
    (Artifact.job (Artifact.events labelling.header orders))) :
    part.read? (labelling.target "internal/domain/events.go") = some "// m\n".toUTF8 := by
  refine read?_label hleaves rfl (path_events _ _) ?_ ?_
  · exact renderNamed_label .events "" _ (eval_subject rfl) Bool.noConfusion
  · rw [← Option.isNone_iff_eq_none]
    decide +kernel

theorem emitsEach_reads_emitAll_orders : labelling.Separate orders ∧ ∃ full part,
    { labelling with families := none }.emitAll ⟨none⟩ orders { tree := labels } = (full, none) ∧
    labelling.EmitsEach orders labels [.serviceImpls, .events] part ∧
    (∀ path ∈ [Family.serviceImpls, .events].flatMap (Artifact.paths labelling.layout orders),
      ∃ bytes, part.read? (labelling.target path) = some bytes ∧
        full.tree.read? (labelling.target path) = some bytes) ∧
    (∀ other, (∀ path ∈ [Family.serviceImpls, .events].flatMap
      (Artifact.paths labelling.layout orders), Path.parts? other ≠ labelling.place path) →
      part.read? other = labels.read? other) ∧
    part.read? (labelling.target "internal/service/orders.go") = some "// Orders of m\n".toUTF8 ∧
    part.read? (labelling.target "internal/domain/events.go") = some "// m\n".toUTF8 := by
  have hfull : ({ labelling with families := none }.emitAll ⟨none⟩ orders
      { tree := labels }).2 = none := by
    rw [← Option.isNone_iff_eq_none]
    decide +kernel
  obtain ⟨part, hpart⟩ := emitsEach_orders
  obtain ⟨hread, hother⟩ := emitsEach_reads_emitAll labelling orders separate_orders ⟨none⟩
    { tree := labels } _ (Prod.ext rfl hfull) _ (by decide) part hpart
  obtain ⟨made, hmade⟩ := writesAll_of_emitsEach hpart
  have hleaves := leaves_of_families separate_orders (by decide) hmade
  refine ⟨separate_orders, _, part, Prod.ext rfl hfull, hpart, hread, hother, ?_, ?_⟩
  · exact read?_orders_service fun job hjob => hleaves job (List.mem_flatMap.2 ⟨_, by simp, hjob⟩)
  · exact read?_orders_events
      (hleaves _ (List.mem_flatMap.2 ⟨.events, by simp, List.mem_singleton.2 rfl⟩))

end Emitter

end GoScaffold
