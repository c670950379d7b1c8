import GoScaffold.Proofs.Flow.Branches
import GoScaffold.Proofs.Flow.Normalization

/-! The uniform shape of a flow keeps all that was declared. Where no argument has the key of a
branch, the values among the arguments are the arguments as declared, what stands under the keys of
branches are the branches, and an empty branch is one without an entry; so the steps can be restored
from their uniform shape. -/

namespace GoScaffold

namespace Dict

variable {α β : Type} {key : String} {value : α} {d : Dict α}

theorem filterMap_insert {f : String × α → Option β} (hkey : key ∉ d.keys)
    (hf : f (key, value) = none) :
    (insert key value d).filterMap f = d.filterMap f := by
  induction d with
  | nil => simp [insert, hf]
  | cons entry d ih =>
    rw [keys, List.map_cons, List.mem_cons, not_or] at hkey
    rw [insert, if_neg hkey.1]
    split
    · rw [List.filterMap_cons_none hf]
    · rw [List.filterMap_cons, List.filterMap_cons, ih hkey.2]

end Dict

namespace Step

def reservedKeys : List String := casesKey :: branchKeys

def plain? (entry : String × StepArg) : Option (String × Json) :=
  match entry.2 with
  | .value v => some (entry.1, v)
  | _ => none

def plainArgs (args : Dict StepArg) : Dict Json := args.filterMap plain?

def restore : Step → FlowStep :=
  fold fun s branch cases =>
    { action := s.action
      params := s.params
      args := plainArgs s.args
      steps := branch doKey
      ifNew := branch ifNewKey
      ifExists := branch ifExistsKey
      thenSteps := branch thenKey
      elseSteps := branch elseKey
      cases := cases
      defaultSteps := branch defaultKey }

theorem restore_eq (s : Step) : s.restore =
    { action := s.action
      params := s.params
      args := plainArgs s.args
      steps := (s.branch doKey).map restore
      ifNew := (s.branch ifNewKey).map restore
      ifExists := (s.branch ifExistsKey).map restore
      thenSteps := (s.branch thenKey).map restore
      elseSteps := (s.branch elseKey).map restore
      cases := (s.cases?.getD []).map fun b => (b.1, b.2.map restore)
      defaultSteps := (s.branch defaultKey).map restore } :=
  fold_eq _ s

def restoreAll (flow : List Step) : List FlowStep := flow.map restore

variable {args : Dict StepArg}

theorem plainArgs_addBranch {key : String} (hkey : key ∉ args.keys) (branch : List Step) :
    plainArgs (addBranch key branch args) = plainArgs args := by
  unfold addBranch
  split
  · rfl
  · exact Dict.filterMap_insert hkey rfl

theorem mem_keys_addBranch {key q : String} {branch : List Step}
    (h : q ∈ (addBranch key branch args).keys) : q = key ∨ q ∈ args.keys := by
  unfold addBranch at h
  split at h
  · exact .inr h
  · exact Dict.mem_keys_insert.1 h

theorem plainArgs_addCases (hkey : casesKey ∉ args.keys) (branches : List (String × List Step)) :
    plainArgs (addCases branches args) = plainArgs args := by
  unfold addCases
  split
  · rfl
  · exact Dict.filterMap_insert hkey rfl

variable {slots : List (String × List FlowStep)}

theorem mem_keys_addSlots {q : String} (h : q ∈ (addSlots slots args).keys) :
    q ∈ slots.map Prod.fst ∨ q ∈ args.keys := by
  induction slots generalizing args with
  | nil => exact .inr h
  | cons slot slots ih =>
    rw [List.map_cons, List.mem_cons, or_assoc]
    rcases ih h with hslot | hkey
    · exact .inr (.inl hslot)
    · exact (mem_keys_addBranch hkey).imp_right .inr

theorem plainArgs_addSlots (hkeys : (slots.map Prod.fst).Nodup)
    (h : ∀ key ∈ slots.map Prod.fst, key ∉ args.keys) :
    plainArgs (addSlots slots args) = plainArgs args := by
  induction slots generalizing args with
  | nil => rfl
  | cons slot slots ih =>
    rw [List.map_cons, List.nodup_cons] at hkeys
    rw [List.map_cons, List.forall_mem_cons] at h
    have hrest : ∀ key ∈ slots.map Prod.fst,
        key ∉ (addBranch slot.1 (normalizeSteps slot.2) args).keys := by
      intro key hkey hmem
      rcases mem_keys_addBranch hmem with rfl | hmem
      · exact hkeys.1 hkey
      · exact h.2 key hkey hmem
    exact (ih hkeys.2 hrest).trans (plainArgs_addBranch h.1 _)

end Step

namespace FlowStep

open Step

def Unreserved (s : FlowStep) : Prop := ∀ key ∈ reservedKeys, key ∉ s.args.keys

instance (s : FlowStep) : Decidable s.Unreserved :=
  inferInstanceAs (Decidable (∀ key ∈ reservedKeys, key ∉ s.args.keys))

theorem Within.mono {steps more : List FlowStep} {t : FlowStep} (h : Within steps t)
    (hsubset : steps ⊆ more) : Within more t := by
  cases h with
  | top ht => exact .top (hsubset ht)
  | deeper hs hbranch ht => exact .deeper (hsubset hs) hbranch ht

theorem forall_within_nil {P : FlowStep → Prop} : (∀ t, Within [] t → P t) ↔ True := by
  refine iff_true_intro fun t ht => ?_
  cases ht <;> contradiction

theorem forall_within_cons {P : FlowStep → Prop} {s : FlowStep} {steps : List FlowStep} :
    (∀ t, Within (s :: steps) t → P t) ↔
      P s ∧ (∀ branch ∈ s.branches, ∀ t, Within branch t → P t) ∧ ∀ t, Within steps t → P t := by
  constructor
  · intro h
    refine ⟨h s (.top List.mem_cons_self), fun branch hbranch t ht => ?_, fun t ht => ?_⟩
    · exact h t (.deeper List.mem_cons_self hbranch ht)
    · exact h t (ht.mono (List.subset_cons_self s steps))
  · rintro ⟨hs, hbranches, hsteps⟩ t ht
    obtain ⟨u, hu, heq⟩ := within_iff.1 ht
    rcases List.mem_cons.1 hu with rfl | hu
    · rcases heq with rfl | ⟨branch, hbranch, ht⟩
      · exact hs
      · exact hbranches branch hbranch t ht
    · exact hsteps t (within_iff.2 ⟨u, hu, heq⟩)

theorem params_normalize (s : FlowStep) : s.normalize.params = s.params := by
  cases s
  rw [normalize]

theorem plainArgs_values (s : FlowStep) : plainArgs s.values = s.args := by
  rw [plainArgs, values, Dict.mapValues, List.filterMap_map]
  exact List.filterMap_some

theorem plainArgs_normalize {s : FlowStep} (h : s.Unreserved) :
    plainArgs s.normalize.args = s.args := by
  have hvalues : s.values.keys = s.args.keys := Dict.keys_mapValues _ _
  have hslots : ∀ key ∈ s.slots.map Prod.fst, key ∉ s.values.keys := by
    intro key hkey
    rw [hvalues]
    exact h key (List.mem_cons_of_mem _ hkey)
  have hcases : casesKey ∉ (addSlots s.slots s.values).keys := by
    intro hmem
    rcases mem_keys_addSlots hmem with hslot | hvalue
    · exact s.casesKey_not_mem_slots hslot
    · exact h casesKey List.mem_cons_self (hvalues ▸ hvalue)
  rw [args_normalize, plainArgs_addCases hcases, plainArgs_addSlots s.nodup_slots hslots,
    plainArgs_values]

section

variable {s : FlowStep}

theorem map_restore_normalizeSteps {steps : List FlowStep}
    (h : ∀ t ∈ steps, t.normalize.restore = t) :
    (normalizeSteps steps).map restore = steps := by
  rw [normalizeSteps_eq_map, List.map_map]
  exact (List.map_congr_left h).trans (List.map_id _)

theorem map_restore_normalizeCases {cases : List (String × List FlowStep)}
    (h : ∀ c ∈ cases, ∀ t ∈ c.2, t.normalize.restore = t) :
    (normalizeCases cases).map (fun b => (b.1, b.2.map restore)) = cases := by
  rw [normalizeCases_eq_map, List.map_map]
  refine (List.map_congr_left fun c hc => ?_).trans (List.map_id _)
  exact congrArg (Prod.mk c.1) (map_restore_normalizeSteps (h c hc))

theorem restore_normalize (h : ∀ t, Within [s] t → t.Unreserved) : s.normalize.restore = s := by
  induction s using branches_induction with
  | h s ih =>
    have hbelow : ∀ branch ∈ s.branches, ∀ t ∈ branch, t.normalize.restore = t := by
      intro branch hbranch t ht
      refine ih branch hbranch t ht fun u hu => h u (.deeper List.mem_cons_self hbranch ?_)
      exact hu.mono fun b hb => List.mem_singleton.1 hb ▸ ht
    have hslot : ∀ slot ∈ s.slots, (s.normalize.branch slot.1).map restore = slot.2 := by
      intro slot hslot
      rw [branch_normalize hslot]
      exact map_restore_normalizeSteps (hbelow
        _ (List.mem_map_of_mem (List.mem_append_left _ hslot)))
    have hcases : (s.normalize.cases?.getD []).map (fun b => (b.1, b.2.map restore)) = s.cases := by
      rw [cases?_normalize]
      exact map_restore_normalizeCases fun c hc =>
        hbelow _ (List.mem_map_of_mem (List.mem_append_right _ hc))
    simp only [slots, List.forall_mem_cons] at hslot
    obtain ⟨hdo, hnew, hexists, hthen, helse, hdefault, -⟩ := hslot
    rw [restore_eq, action_normalize, params_normalize,
      plainArgs_normalize (h s (.top List.mem_cons_self)), hdo, hnew, hexists, hthen, helse,
      hdefault, hcases]
    -- a recursive structure is not equal to the record of its fields by definition
    cases s
    rfl

end

end FlowStep

open FlowStep

/-- Where no argument, at any depth, has the key of a branch, all steps are restored from their
uniform shape, with their arguments, branches and labels. -/
theorem restoreAll_normalizeSteps {steps : List FlowStep} (h : ∀ s, Within steps s → s.Unreserved) :
    Step.restoreAll (normalizeSteps steps) = steps := by
  refine map_restore_normalizeSteps fun t ht => restore_normalize fun u hu => h u ?_
  exact hu.mono fun b hb => List.mem_singleton.1 hb ▸ ht

def byKind : List FlowStep :=
  [{ action := "switch"
     params := ["kind"]
     args := [("value", .str "req.Kind"), ("weights", .arr [.bool true, .null])]
     cases := [("a", []), ("b", [{ action := "flow.Block", steps := [{ action := "noop" }] }])]
     defaultSteps := [{ action := "upsert", args := [("target", .str "order")] }] }]

theorem unreserved_byKind : ∀ s, Within byKind s → s.Unreserved := by
  simp only [byKind, forall_within_cons, forall_within_nil, branches, slots, List.cons_append,
    List.nil_append, List.map_cons, List.map_nil, List.forall_mem_cons, List.not_mem_nil,
    false_imp_iff, forall_const, and_true]
  decide

theorem restoreAll_byKind :
    (∀ s, Within byKind s → s.Unreserved) ∧ Step.restoreAll (normalizeSteps byKind) = byKind :=
  ⟨unreserved_byKind, restoreAll_normalizeSteps unreserved_byKind⟩

end GoScaffold
