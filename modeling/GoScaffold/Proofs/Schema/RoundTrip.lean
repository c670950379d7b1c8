import GoScaffold.Proofs.Document.Restoring
import GoScaffold.Schema.Encode
import GoScaffold.Schema.Hash
import GoScaffold.Schema.Source
import Mathlib.Tactic.MkIffOfInductiveProp

/-! A schema is what its canonical text says: the text is read back as the schema it was written
from, so no two schemas share it. This holds of plain schemas, in which nothing is written otherwise
than it is kept: there are no floating point numbers and no free-form value is an explicit `null`.
The other conditions are those of the types that a schema is made of: integers fit in 64 bits, and
the keys of a dictionary are distinct and in order. -/

namespace GoScaffold

open Document

variable {n : Nat}

attribute [local simp] Fields.text Fields.texts Fields.bool Fields.int64 Fields.optional Fields.list
  Fields.dict Fields.metadata

def Json.PlainOption (o : Option Json) : Prop := ∀ j ∈ o, j ≠ .null ∧ j.Plain

theorem Restores.freeOption {o : Option Json} (ho : Json.PlainOption o) :
    Restores n (.optional .free) (o.getD .null) o := by
  cases o with
  | none => exact Restores.absent
  | some j =>
    obtain ⟨hne, hplain⟩ := ho j rfl
    have hfree := Restores.free (n := n) hplain
    refine ⟨hfree.integral, fun depth hn hdepth => ?_⟩
    rw [Option.getD_some] at hdepth ⊢
    rw [Restores.optional_ofJson hne, hfree.read_eq depth hn hdepth, Option.map_some]

theorem Restores.remarks {d : Metadata} (hd : (Json.obj d).Plain) :
    Restores n (.dict .free) (.obj d) d :=
  Restores.metadata hd.1 (Restores.free_entries hd.2)

@[mk_iff]
structure Constraints.Plain (c : Constraints) : Prop where
  min : c.min = none
  max : c.max = none
  minLen : ∀ i ∈ c.minLen, Width.holdsInt 64 i = true
  maxLen : ∀ i ∈ c.maxLen, Width.holdsInt 64 i = true

theorem Constraints.restores {c : Constraints} (hc : c.Plain) : Restores n read c.toJson c := by
  have hmin : Restores n (.optional .float) (.ofOption .ofFloat c.min) c.min :=
    hc.min ▸ Restores.absent
  have hmax : Restores n (.optional .float) (.ofOption .ofFloat c.max) c.max :=
    hc.max ▸ Restores.absent
  have hminLen : Restores n (.optional .int64) (.ofOption .int c.minLen) c.minLen :=
    Restores.optional (fun _ => nofun) fun i hi => Restores.int64 (hc.minLen i hi)
  have hmaxLen : Restores n (.optional .int64) (.ofOption .int c.maxLen) c.maxLen :=
    Restores.optional (fun _ => nofun) fun i hi => Restores.int64 (hc.maxLen i hi)
  apply Restores.record n.le_succ rfl (by decide +kernel)
  · simp [hmin.integral, hmax.integral, hminLen.integral, hmaxLen.integral]
  · intro depth hn hdepth
    simp only [List.forall_mem_cons] at hdepth
    simp [hdepth, hn, hmin.read_eq, hmax.read_eq, hminLen.read_eq, hmaxLen.read_eq]

theorem Attribute.restores {a : Attribute} (ha : (Json.obj a.args).Plain) :
    Restores n read a.toJson a := by
  have hargs := Restores.remarks (n := n) ha
  apply Restores.record n.le_succ rfl (by decide +kernel)
  · simp [hargs.integral]
  · intro depth hn hdepth
    simp only [List.forall_mem_cons] at hdepth
    simp [hdepth, hn, hargs.read_eq]

theorem TypeKind.restores (k : TypeKind) : Restores n read (.str k.name) k :=
  ⟨trivial, fun depth _ _ => by cases k <;> rfl⟩

mutual

def TypeRef.Plain : TypeRef → Prop
  | ⟨_, _, item, key, inlineFields⟩ =>
    TypeRef.PlainOption item ∧ TypeRef.PlainOption key ∧ Field.PlainList inlineFields

def Field.Plain : Field → Prop
  | ⟨_, type, _, default, _, _, _, _, _, constraints, attributes, ui, metadata, _⟩ =>
    type.Plain ∧ Json.PlainOption default ∧ (∀ c ∈ constraints, c.Plain) ∧
      (∀ a ∈ attributes, (Json.obj a.args).Plain) ∧ Json.PlainOption ui ∧ (Json.obj metadata).Plain

def TypeRef.PlainOption : Option TypeRef → Prop
  | none => True
  | some t => t.Plain

def Field.PlainList : List Field → Prop
  | [] => True
  | f :: rest => f.Plain ∧ Field.PlainList rest

end

theorem optionalTypeJson_eq (o : Option TypeRef) :
    optionalTypeJson o = .ofOption TypeRef.toJson o := by
  cases o <;> rfl

theorem fieldsJson_eq_map (fields : List Field) : fieldsJson fields = fields.map Field.toJson := by
  induction fields with
  | nil => rfl
  | cons f fields ih => rw [fieldsJson, ih, List.map_cons]

theorem TypeRef.toJson_ne_null (t : TypeRef) : t.toJson ≠ .null := by
  cases t
  exact nofun

mutual

-- a nested type or field has one level fewer, and so has what may be read of it
theorem TypeRef.restoresWithin : ∀ {t : TypeRef}, t.Plain →
    ∀ n, Restores n (TypeRef.readWithin n) t.toJson t
  | ⟨kind, name, item, key, inlineFields⟩, ⟨hitem, hkey, hfields⟩ => Restores.within fun n => by
    have hkind := TypeKind.restores (n := n) kind
    have hitem : Restores n (.optional (TypeRef.readWithin n)) (optionalTypeJson item) item :=
      optionalTypeJson_eq item ▸
        Restores.optional TypeRef.toJson_ne_null (TypeRef.restoresWithin_option hitem n)
    have hkey : Restores n (.optional (TypeRef.readWithin n)) (optionalTypeJson key) key :=
      optionalTypeJson_eq key ▸
        Restores.optional TypeRef.toJson_ne_null (TypeRef.restoresWithin_option hkey n)
    have hfields : Restores n (.list (Field.readWithin n)) (.arr (fieldsJson inlineFields))
        inlineFields :=
      fieldsJson_eq_map inlineFields ▸ Restores.list (Field.restoresWithin_list hfields n)
    apply Restores.record le_rfl rfl (by decide +kernel)
    · simp [hitem.integral, hkey.integral, hfields.integral]
    · intro depth hn hdepth
      simp only [List.forall_mem_cons] at hdepth
      simp [hdepth, hn, hkind.read_eq, hitem.read_eq, hkey.read_eq, hfields.read_eq]

theorem Field.restoresWithin : ∀ {f : Field}, f.Plain →
    ∀ n, Restores n (Field.readWithin n) f.toJson f
  | ⟨name, type, _, default, _, _, _, _, _, constraints, attributes, ui, metadata, _⟩,
    ⟨htype, hdefault, hconstraints, hattributes, hui, hmetadata⟩ => Restores.within fun n => by
    have htype := TypeRef.restoresWithin htype n
    have hdefault := Restores.freeOption (n := n) hdefault
    have hconstraints : Restores n (.optional Constraints.read)
        (.ofOption Constraints.toJson constraints) constraints :=
      Restores.optional (fun _ => nofun) fun c hc => Constraints.restores (hconstraints c hc)
    have hattributes : Restores n (.list Attribute.read) (.arr (attributes.map Attribute.toJson))
        attributes := Restores.list fun a ha => Attribute.restores (hattributes a ha)
    have hui := Restores.freeOption (n := n) hui
    have hmetadata := Restores.remarks (n := n) hmetadata
    apply Restores.record le_rfl rfl (by decide +kernel)
    · simp [htype.integral, hdefault.integral, hconstraints.integral, hattributes.integral,
        hui.integral, hmetadata.integral]
    · intro depth hn hdepth
      simp only [List.forall_mem_cons] at hdepth
      simp [hdepth, hn, htype.read_eq, hdefault.read_eq, hconstraints.read_eq, hattributes.read_eq,
        hui.read_eq, hmetadata.read_eq]

theorem TypeRef.restoresWithin_option : ∀ {o : Option TypeRef}, TypeRef.PlainOption o →
    ∀ n, ∀ t ∈ o, Restores n (TypeRef.readWithin n) t.toJson t
  | some _, h, n, _, rfl => TypeRef.restoresWithin h n

theorem Field.restoresWithin_list : ∀ {fields : List Field}, Field.PlainList fields →
    ∀ n, ∀ f ∈ fields, Restores n (Field.readWithin n) f.toJson f
  | _ :: _, h, n, _, .head _ => Field.restoresWithin h.1 n
  | _ :: _, h, n, _, .tail _ hf => Field.restoresWithin_list h.2 n _ hf

end

theorem Field.restores {f : Field} (hf : f.Plain) : Restores n read f.toJson f :=
  Restores.of_within (Field.restoresWithin hf)

theorem restores_fields {fields : List Field} (hfields : ∀ f ∈ fields, f.Plain) :
    Restores n (.list Field.read) (.arr (fieldsJson fields)) fields :=
  fieldsJson_eq_map fields ▸ Restores.list fun f hf => Field.restores (hfields f hf)

theorem StateMachine.restores {m : StateMachine} (hm : m.transitions.Ordered) :
    Restores n read m.toJson m := by
  have htransitions : Restores n (.dict (.list .text))
      (.obj (m.transitions.map fun e => (e.1, .strs e.2))) m.transitions :=
    Restores.dict hm fun e _ => Restores.texts e.2
  apply Restores.record n.le_succ rfl (by decide +kernel)
  · simp [htransitions.integral]
  · intro depth hn hdepth
    simp only [List.forall_mem_cons] at hdepth
    simp [hdepth, hn, htransitions.read_eq]

theorem Index.restores (i : Index) : Restores n read i.toJson i := by
  apply Restores.record n.le_succ rfl (by decide +kernel)
  · simp
  · intro depth hn hdepth
    simp only [List.forall_mem_cons] at hdepth
    simp [hdepth]

@[mk_iff]
structure Entity.Plain (e : Entity) : Prop where
  fields : ∀ f ∈ e.fields, f.Plain
  metadata : (Json.obj e.metadata).Plain
  ui : Json.PlainOption e.ui
  machine : ∀ m ∈ e.machine, m.transitions.Ordered

theorem Entity.restores {e : Entity} (he : e.Plain) : Restores n read e.toJson e := by
  have hfields := restores_fields (n := n) he.fields
  have hmetadata := Restores.remarks (n := n) he.metadata
  have hindexes : Restores n (.list Index.read) (.arr (e.indexes.map Index.toJson)) e.indexes :=
    Restores.list fun i _ => i.restores
  have hui := Restores.freeOption (n := n) he.ui
  have hmachine : Restores n (.optional StateMachine.read)
      (.ofOption StateMachine.toJson e.machine) e.machine :=
    Restores.optional (fun _ => nofun) fun m hm => StateMachine.restores (he.machine m hm)
  apply Restores.record n.le_succ rfl (by decide +kernel)
  · simp [hfields.integral, hmetadata.integral, hindexes.integral, hui.integral, hmachine.integral]
  · intro depth hn hdepth
    simp only [List.forall_mem_cons] at hdepth
    simp [hdepth, hn, hfields.read_eq, hmetadata.read_eq, hindexes.read_eq, hui.read_eq,
      hmachine.read_eq]

theorem Source.restores (s : Source) : Restores n read s.toJson s := by
  apply Restores.record n.le_succ rfl (by decide +kernel)
  · simp
  · intro depth hn hdepth
    simp

@[mk_iff]
structure Pagination.Plain (p : Pagination) : Prop where
  defaultLimit : Width.holdsInt 64 p.defaultLimit = true
  maxLimit : Width.holdsInt 64 p.maxLimit = true

theorem Pagination.restores {p : Pagination} (hp : p.Plain) : Restores n read p.toJson p := by
  apply Restores.record n.le_succ rfl (by decide +kernel)
  · simp [hp.defaultLimit, hp.maxLimit]
  · intro depth hn hdepth
    simp [hp.defaultLimit, hp.maxLimit]

theorem restores_pagination {o : Option Pagination} (ho : ∀ p ∈ o, p.Plain) :
    Restores n (.optional Pagination.read) (.ofOption Pagination.toJson o) o :=
  Restores.optional (fun _ => nofun) fun p hp => Pagination.restores (ho p hp)

theorem Snippet.restores (s : Snippet) : Restores n read s.toJson s := by
  apply Restores.record n.le_succ rfl (by decide +kernel)
  · simp
  · intro depth hn hdepth
    simp only [List.forall_mem_cons] at hdepth
    simp [hdepth]

mutual

def FlowStep.Plain : FlowStep → Prop
  | ⟨_, _, args, steps, ifNew, ifExists, thenSteps, elseSteps, cases, defaultSteps⟩ =>
    (Json.obj args).Plain ∧ FlowStep.PlainList steps ∧ FlowStep.PlainList ifNew ∧
      FlowStep.PlainList ifExists ∧ FlowStep.PlainList thenSteps ∧ FlowStep.PlainList elseSteps ∧
      (Dict.Ordered cases ∧ FlowStep.PlainCases cases) ∧ FlowStep.PlainList defaultSteps

def FlowStep.PlainList : List FlowStep → Prop
  | [] => True
  | s :: rest => s.Plain ∧ FlowStep.PlainList rest

def FlowStep.PlainCases : List (String × List FlowStep) → Prop
  | [] => True
  | (_, steps) :: rest => FlowStep.PlainList steps ∧ FlowStep.PlainCases rest

end

theorem stepsJson_eq_map (steps : List FlowStep) : stepsJson steps = steps.map FlowStep.toJson := by
  induction steps with
  | nil => rfl
  | cons s steps ih => rw [stepsJson, ih, List.map_cons]

theorem caseStepsJson_eq_map (cases : List (String × List FlowStep)) :
    caseStepsJson cases = cases.map fun e => (e.1, .arr (stepsJson e.2)) := by
  induction cases with
  | nil => rfl
  | cons e cases ih => rw [caseStepsJson, ih, List.map_cons]

mutual

theorem FlowStep.restoresWithin : ∀ {s : FlowStep}, s.Plain →
    ∀ n, Restores n (FlowStep.readWithin n) s.toJson s
  | ⟨_, _, args, steps, ifNew, ifExists, thenSteps, elseSteps, cases, defaultSteps⟩,
    ⟨hargs, hsteps, hnew, hexists, hthen, helse, ⟨hordered, hcases⟩, hdefault⟩ =>
    Restores.within fun n => by
    have hargs := Restores.remarks (n := n) hargs
    have hsteps := FlowStep.restoresWithin_list hsteps n
    have hnew := FlowStep.restoresWithin_list hnew n
    have hexists := FlowStep.restoresWithin_list hexists n
    have hthen := FlowStep.restoresWithin_list hthen n
    have helse := FlowStep.restoresWithin_list helse n
    have hcases : Restores n (.dict (.list (FlowStep.readWithin n))) (.obj (caseStepsJson cases))
        cases :=
      caseStepsJson_eq_map cases ▸
        Restores.dict (f := fun steps => .arr (stepsJson steps)) hordered
          (FlowStep.restoresWithin_cases hcases n)
    have hdefault := FlowStep.restoresWithin_list hdefault n
    apply Restores.record le_rfl rfl (by decide +kernel)
    · simp [hargs.integral, hsteps.integral, hnew.integral, hexists.integral, hthen.integral,
        helse.integral, hcases.integral, hdefault.integral]
    · intro depth hn hdepth
      simp only [List.forall_mem_cons] at hdepth
      simp [hdepth, hn, hargs.read_eq, hsteps.read_eq, hnew.read_eq, hexists.read_eq, hthen.read_eq,
        helse.read_eq, hcases.read_eq, hdefault.read_eq]

theorem FlowStep.restoresWithin_list : ∀ {steps : List FlowStep}, FlowStep.PlainList steps →
    ∀ n, Restores n (.list (FlowStep.readWithin n)) (.arr (stepsJson steps)) steps
  | steps, h, n => stepsJson_eq_map steps ▸ Restores.list (FlowStep.restoresWithin_mem h n)

theorem FlowStep.restoresWithin_mem : ∀ {steps : List FlowStep}, FlowStep.PlainList steps →
    ∀ n, ∀ s ∈ steps, Restores n (FlowStep.readWithin n) s.toJson s
  | _ :: _, h, n, _, .head _ => FlowStep.restoresWithin h.1 n
  | _ :: _, h, n, _, .tail _ hs => FlowStep.restoresWithin_mem h.2 n _ hs

theorem FlowStep.restoresWithin_cases : ∀ {cases : List (String × List FlowStep)},
    FlowStep.PlainCases cases → ∀ n, ∀ e ∈ cases,
      Restores n (.list (FlowStep.readWithin n)) (.arr (stepsJson e.2)) e.2
  | (_, _) :: _, h, n, _, .head _ => FlowStep.restoresWithin_list h.1 n
  | (_, _) :: _, h, n, _, .tail _ he => FlowStep.restoresWithin_cases h.2 n _ he

end

theorem FlowStep.restores {s : FlowStep} (hs : s.Plain) : Restores n read s.toJson s :=
  Restores.of_within (FlowStep.restoresWithin hs)

@[mk_iff]
structure Method.Plain (m : Method) : Prop where
  input : ∀ e ∈ m.input, e.Plain
  output : ∀ e ∈ m.output, e.Plain
  flow : ∀ s ∈ m.flow, s.Plain
  pagination : ∀ p ∈ m.pagination, p.Plain
  metadata : (Json.obj m.metadata).Plain

theorem restores_entity {o : Option Entity} (ho : ∀ e ∈ o, e.Plain) :
    Restores n (.optional Entity.read) (.ofOption Entity.toJson o) o :=
  Restores.optional (fun _ => nofun) fun e he => Entity.restores (ho e he)

theorem Method.restores {m : Method} (hm : m.Plain) : Restores n read m.toJson m := by
  have hinput := restores_entity (n := n) hm.input
  have houtput := restores_entity (n := n) hm.output
  have hsources : Restores n (.list Source.read) (.arr (m.sources.map Source.toJson)) m.sources :=
    Restores.list fun s _ => s.restores
  have hflow : Restores n (.list FlowStep.read) (.arr (stepsJson m.flow)) m.flow :=
    stepsJson_eq_map m.flow ▸ Restores.list fun s hs => FlowStep.restores (hm.flow s hs)
  have himpl : Restores n (.optional Snippet.read) (.ofOption Snippet.toJson m.impl) m.impl :=
    Restores.optional (fun _ => nofun) fun s _ => s.restores
  have hpagination := restores_pagination (n := n) hm.pagination
  have hmetadata := Restores.remarks (n := n) hm.metadata
  apply Restores.record n.le_succ rfl (by decide +kernel)
  · simp [hinput.integral, houtput.integral, hsources.integral, hflow.integral, himpl.integral,
      hpagination.integral, hmetadata.integral]
  · intro depth hn hdepth
    simp only [List.forall_mem_cons] at hdepth
    simp [hdepth, hn, hinput.read_eq, houtput.read_eq, hsources.read_eq, hflow.read_eq,
      himpl.read_eq, hpagination.read_eq, hmetadata.read_eq]

theorem Requirements.restores (r : Requirements) : Restores n read r.toJson r := by
  apply Restores.record n.le_succ rfl (by decide +kernel)
  · simp
  · intro depth hn hdepth
    simp

@[mk_iff]
structure Service.Plain (s : Service) : Prop where
  methods : ∀ m ∈ s.methods, m.Plain
  subscribes : s.subscribes.Ordered
  metadata : (Json.obj s.metadata).Plain

theorem Service.restores {s : Service} (hs : s.Plain) : Restores n read s.toJson s := by
  have hmethods : Restores n (.list Method.read) (.arr (s.methods.map Method.toJson)) s.methods :=
    Restores.list fun m hm => Method.restores (hs.methods m hm)
  have hsubscribes : Restores n (.dict .text) (.obj (s.subscribes.map fun e => (e.1, .str e.2)))
      s.subscribes := Restores.dict hs.subscribes fun e _ => Restores.text e.2
  have hrequires := Requirements.restores (n := n) s.requires
  have hmetadata := Restores.remarks (n := n) hs.metadata
  apply Restores.record n.le_succ rfl (by decide +kernel)
  · simp [hmethods.integral, hsubscribes.integral, hrequires.integral, hmetadata.integral]
  · intro depth hn hdepth
    simp only [List.forall_mem_cons] at hdepth
    simp [hdepth, hn, hmethods.read_eq, hsubscribes.read_eq, hrequires.read_eq, hmetadata.read_eq]

@[mk_iff]
structure Event.Plain (e : Event) : Prop where
  fields : ∀ f ∈ e.fields, f.Plain
  metadata : (Json.obj e.metadata).Plain

theorem Event.restores {e : Event} (he : e.Plain) : Restores n read e.toJson e := by
  have hfields := restores_fields (n := n) he.fields
  have hmetadata := Restores.remarks (n := n) he.metadata
  apply Restores.record n.le_succ rfl (by decide +kernel)
  · simp [hfields.integral, hmetadata.integral]
  · intro depth hn hdepth
    simp only [List.forall_mem_cons] at hdepth
    simp [hdepth, hn, hfields.read_eq, hmetadata.read_eq]

@[mk_iff]
structure BusinessError.Plain (e : BusinessError) : Prop where
  code : Width.holdsInt 64 e.code = true
  httpStatus : Width.holdsInt 64 e.httpStatus = true

theorem BusinessError.restores {e : BusinessError} (he : e.Plain) : Restores n read e.toJson e := by
  apply Restores.record n.le_succ rfl (by decide +kernel)
  · simp [he.code, he.httpStatus]
  · intro depth hn hdepth
    simp [he.code, he.httpStatus]

theorem EndpointAuth.restores (a : EndpointAuth) : Restores n read a.toJson a := by
  apply Restores.record n.le_succ rfl (by decide +kernel)
  · simp
  · intro depth hn hdepth
    simp only [List.forall_mem_cons] at hdepth
    simp [hdepth]

@[mk_iff]
structure RateLimit.Plain (r : RateLimit) : Prop where
  rps : Width.holdsInt 64 r.rps = true
  burst : Width.holdsInt 64 r.burst = true

theorem RateLimit.restores {r : RateLimit} (hr : r.Plain) : Restores n read r.toJson r := by
  apply Restores.record n.le_succ rfl (by decide +kernel)
  · simp [hr.rps, hr.burst]
  · intro depth hn hdepth
    simp [hr.rps, hr.burst]

@[mk_iff]
structure CircuitBreaker.Plain (c : CircuitBreaker) : Prop where
  threshold : Width.holdsInt 64 c.threshold = true
  halfOpenMax : Width.holdsInt 64 c.halfOpenMax = true

theorem CircuitBreaker.restores {c : CircuitBreaker} (hc : c.Plain) :
    Restores n read c.toJson c := by
  apply Restores.record n.le_succ rfl (by decide +kernel)
  · simp [hc.threshold, hc.halfOpenMax]
  · intro depth hn hdepth
    simp [hc.threshold, hc.halfOpenMax]

theorem Retry.restores {r : Retry} (hr : Width.holdsInt 64 r.attempts = true) :
    Restores n read r.toJson r := by
  apply Restores.record n.le_succ rfl (by decide +kernel)
  · simp [hr]
  · intro depth hn hdepth
    simp [hr]

theorem TestHints.restores (h : TestHints) : Restores n read h.toJson h := by
  apply Restores.record n.le_succ rfl (by decide +kernel)
  · simp
  · intro depth hn hdepth
    simp only [List.forall_mem_cons] at hdepth
    simp [hdepth]

@[mk_iff]
structure Endpoint.Plain (e : Endpoint) : Prop where
  rateLimit : ∀ r ∈ e.rateLimit, r.Plain
  circuitBreaker : ∀ c ∈ e.circuitBreaker, c.Plain
  retry : ∀ r ∈ e.retry, Width.holdsInt 64 r.attempts = true
  pagination : ∀ p ∈ e.pagination, p.Plain
  metadata : (Json.obj e.metadata).Plain

theorem Endpoint.restores {e : Endpoint} (he : e.Plain) : Restores n read e.toJson e := by
  have hauth : Restores n (.optional EndpointAuth.read) (.ofOption EndpointAuth.toJson e.auth)
      e.auth := Restores.optional (fun _ => nofun) fun a _ => a.restores
  have hrate : Restores n (.optional RateLimit.read) (.ofOption RateLimit.toJson e.rateLimit)
      e.rateLimit :=
    Restores.optional (fun _ => nofun) fun r hr => RateLimit.restores (he.rateLimit r hr)
  have hbreaker : Restores n (.optional CircuitBreaker.read)
      (.ofOption CircuitBreaker.toJson e.circuitBreaker) e.circuitBreaker :=
    Restores.optional (fun _ => nofun) fun c hc => CircuitBreaker.restores (he.circuitBreaker c hc)
  have hretry : Restores n (.optional Retry.read) (.ofOption Retry.toJson e.retry) e.retry :=
    Restores.optional (fun _ => nofun) fun r hr => Retry.restores (he.retry r hr)
  have hpagination := restores_pagination (n := n) he.pagination
  have hhints : Restores n (.optional TestHints.read) (.ofOption TestHints.toJson e.testHints)
      e.testHints := Restores.optional (fun _ => nofun) fun h _ => h.restores
  have hmetadata := Restores.remarks (n := n) he.metadata
  apply Restores.record n.le_succ rfl (by decide +kernel)
  · simp [hauth.integral, hrate.integral, hbreaker.integral, hretry.integral, hpagination.integral,
      hhints.integral, hmetadata.integral]
  · intro depth hn hdepth
    simp only [List.forall_mem_cons] at hdepth
    simp [hdepth, hn, hauth.read_eq, hrate.read_eq, hbreaker.read_eq, hretry.read_eq,
      hpagination.read_eq, hhints.read_eq, hmetadata.read_eq]

theorem Condition.restores (c : Condition) : Restores n read c.toJson c := by
  apply Restores.record n.le_succ rfl (by decide +kernel)
  · simp
  · intro depth hn hdepth
    simp

theorem Finder.restores {f : Finder} (hf : Width.holdsInt 64 f.limit = true) :
    Restores n read f.toJson f := by
  have hconditions : Restores n (.list Condition.read) (.arr (f.conditions.map Condition.toJson))
      f.conditions := Restores.list fun c _ => c.restores
  apply Restores.record n.le_succ rfl (by decide +kernel)
  · simp [hconditions.integral, hf]
  · intro depth hn hdepth
    simp only [List.forall_mem_cons] at hdepth
    simp [hdepth, hn, hconditions.read_eq, hf]

theorem Repository.restores {r : Repository}
    (hr : ∀ f ∈ r.finders, Width.holdsInt 64 f.limit = true) :
    Restores n read r.toJson r := by
  have hfinders : Restores n (.list Finder.read) (.arr (r.finders.map Finder.toJson)) r.finders :=
    Restores.list fun f hf => Finder.restores (hr f hf)
  apply Restores.record n.le_succ rfl (by decide +kernel)
  · simp [hfinders.integral]
  · intro depth hn hdepth
    simp only [List.forall_mem_cons] at hdepth
    simp [hdepth, hn, hfinders.read_eq]

theorem Auth.restores (a : Auth) : Restores n read a.toJson a := by
  apply Restores.record n.le_succ rfl (by decide +kernel)
  · simp
  · intro depth hn hdepth
    simp

theorem Schedule.restores (s : Schedule) : Restores n read s.toJson s := by
  apply Restores.record n.le_succ rfl (by decide +kernel)
  · simp
  · intro depth hn hdepth
    simp

theorem Project.restores (p : Project) : Restores n read p.toJson p := by
  apply Restores.record n.le_succ rfl (by decide +kernel)
  · simp
  · intro depth hn hdepth
    simp

/-- Nothing in the schema is written otherwise than it is kept. -/
@[mk_iff]
structure Schema.Plain (s : Schema) : Prop where
  entities : ∀ e ∈ s.entities, e.Plain
  services : ∀ v ∈ s.services, v.Plain
  events : ∀ e ∈ s.events, e.Plain
  errors : ∀ e ∈ s.errors, e.Plain
  endpoints : ∀ e ∈ s.endpoints, e.Plain
  repos : ∀ r ∈ s.repos, ∀ f ∈ r.finders, Width.holdsInt 64 f.limit = true
  metadata : (Json.obj s.metadata).Plain

theorem Schema.restores {s : Schema} (hs : s.Plain) : Restores n read s.toJson s := by
  have hproject := Project.restores (n := n) s.project
  have hentities : Restores n (.list Entity.read)
      (.arr (s.entities.map Entity.toJson)) s.entities :=
    Restores.list fun e he => Entity.restores (hs.entities e he)
  have hservices : Restores n (.list Service.read)
      (.arr (s.services.map Service.toJson)) s.services :=
    Restores.list fun v hv => Service.restores (hs.services v hv)
  have hevents : Restores n (.list Event.read) (.arr (s.events.map Event.toJson)) s.events :=
    Restores.list fun e he => Event.restores (hs.events e he)
  have herrors : Restores n (.list BusinessError.read) (.arr (s.errors.map BusinessError.toJson))
      s.errors := Restores.list fun e he => BusinessError.restores (hs.errors e he)
  have hendpoints : Restores n (.list Endpoint.read) (.arr (s.endpoints.map Endpoint.toJson))
      s.endpoints := Restores.list fun e he => Endpoint.restores (hs.endpoints e he)
  have hrepos : Restores n (.list Repository.read) (.arr (s.repos.map Repository.toJson)) s.repos :=
    Restores.list fun r hr => Repository.restores (hs.repos r hr)
  have hauth : Restores n (.optional Auth.read) (.ofOption Auth.toJson s.auth) s.auth :=
    Restores.optional (fun _ => nofun) fun a _ => a.restores
  have hschedules : Restores n (.list Schedule.read) (.arr (s.schedules.map Schedule.toJson))
      s.schedules := Restores.list fun c _ => c.restores
  have hmetadata := Restores.remarks (n := n) hs.metadata
  apply Restores.record n.le_succ rfl (by decide +kernel)
  · simp [hproject.integral, hentities.integral, hservices.integral, hevents.integral,
      herrors.integral, hendpoints.integral, hrepos.integral, hauth.integral, hschedules.integral,
      hmetadata.integral]
  · intro depth hn hdepth
    simp only [List.forall_mem_cons] at hdepth
    simp [hdepth, hn, hproject.read_eq, hentities.read_eq, hservices.read_eq, hevents.read_eq,
      herrors.read_eq, hendpoints.read_eq, hrepos.read_eq, hauth.read_eq, hschedules.read_eq,
      hmetadata.read_eq]

namespace Schema

theorem ofJsonText_of_plain {s : Schema} (hs : s.Plain)
    (hdepth : (ofJson s.toJson).height ≤ Json.maxDepth) : ofJsonText s.canonical = .ok s := by
  have hrestores := Schema.restores (n := Json.maxDepth + 1) hs
  have hread := hrestores.read_eq Json.maxDepth Json.maxDepth.lt_succ_self hdepth
  have hdocument := Json.document?_compact hrestores.integral
  simp [ofJsonText, Json.decode?, canonical, hdocument, hread]

/-- The canonical text of a plain schema is read back as that schema, if it is not nested too deep
to be read at all. So no other such schema has the same text, and none the same text to hash. -/
theorem ofJsonText_canonical {s : Schema} (hs : s.Plain)
    (hdepth : (ofJson s.toJson).height ≤ Json.maxDepth) :
    ofJsonText s.canonical = .ok s ∧ ∀ t : Schema, t.Plain →
      (ofJson t.toJson).height ≤ Json.maxDepth → t.canonical = s.canonical → t = s := by
  have hread := ofJsonText_of_plain hs hdepth
  refine ⟨hread, fun t ht htdepth htext => ?_⟩
  have hreadt := ofJsonText_of_plain ht htdepth
  rw [htext, hread] at hreadt
  exact (Except.ok.inj hreadt).symm

def lending : Schema where
  version := "1"
  project := { name := "lending \"library\"", version := "0.1\n" }
  entities := [{
    name := "Book"
    fields := [{ Field.blank with
      name := "shelves"
      type := { TypeRef.any with
        kind := .list, item := some { TypeRef.any with kind := .list, item := some .any } }
      default := some (.arr [.arr [.int (-9223372036854775808)], .arr []])
      constraints := some { maxLen := some 40, values := ["north", "süd"] }
      attributes := [{ name := "db", args := [("column", .str "shelves"), ("width", .int 3)] }]
      metadata := [("seen", .bool true)] }]
    indexes := [{ fields := ["name"], unique := true }]
    machine := some { field := "state", transitions := [("lent", ["back"]), ("shelved", ["lent"])] }
    metadata := [("limits", .obj [("max", .int 18446744073709551615), ("min", .null)])] }]
  services := [{
    name := "Desk"
    methods := [{
      name := "Lend"
      input := some { name := "LendRequest" }
      flow := [{
        action := "flow.Switch"
        cases := [("member", [{ action := "repo.Save", params := ["Book"] }]),
          ("visitor", [])] }] }]
    subscribes := [("BookLent", "onLent")]
    requires := { sql := true } }]
  endpoints := [{ method := "POST", path := "/lend", service := "Desk", rpc := "Lend"
                  rateLimit := some { rps := 5, burst := 10 } }]
  repos :=
    [{ name := "BookRepo", entity := "Book", finders := [{ name := "byShelf", limit := 20 }] }]

theorem plain_lending : lending.Plain := by
  have hordered : Dict.Ordered [("column", Json.str "shelves"), ("width", Json.num (.int 3))] ∧
      Dict.Ordered [("max", Json.num (.int 18446744073709551615)), ("min", Json.null)] ∧
      Dict.Ordered [("lent", ["back"]), ("shelved", ["lent"])] ∧
      Dict.Ordered [("member", [({ action := "repo.Save", params := ["Book"] } : FlowStep)]),
        ("visitor", [])] := by
    simp only [Dict.Ordered, List.pairwise_pair]
    decide
  simp [plain_iff, lending, Entity.plain_iff, Service.plain_iff, Method.plain_iff,
    Endpoint.plain_iff, RateLimit.plain_iff, Constraints.plain_iff, Field.Plain,
    Field.PlainList, Field.blank, TypeRef.Plain, TypeRef.PlainOption, TypeRef.any, FlowStep.Plain,
    FlowStep.PlainList, FlowStep.PlainCases, Dict.ordered_nil, Dict.ordered_singleton, hordered,
    Json.PlainOption, Json.Plain, Json.PlainItems, Json.PlainEntries, Json.int, Width.holdsInt_iff,
    Width.holdsEither_iff]

theorem ofJsonText_canonical_lending :
    lending.Plain ∧ ofJsonText lending.canonical = .ok lending ∧ ∀ t : Schema, t.Plain →
      (ofJson t.toJson).height ≤ Json.maxDepth → t.canonical = lending.canonical → t = lending :=
  ⟨plain_lending, ofJsonText_canonical plain_lending (by decide +kernel)⟩

end Schema

end GoScaffold
