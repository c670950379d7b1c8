import GoScaffold.Flow.Basic
import GoScaffold.Proofs.Dict

/-! What becomes of a step in the uniform shape. Its branches go under keys of their own, where they
take the place of arguments with these keys, and an empty branch goes nowhere. No branch is lost on
the way: the tree of a step in the uniform shape has the steps below the step as it was declared,
at every depth. -/

namespace GoScaffold

namespace Step

mutual

def tree : Step → List Step
  | ⟨action, params, args⟩ => ⟨action, params, args⟩ :: argsTree args

def argsTree : List (String × StepArg) → List Step
  | [] => []
  | (_, arg) :: rest => argTree arg ++ argsTree rest

def argTree : StepArg → List Step
  | .steps branch => stepsTree branch
  | .cases branches => casesTree branches
  | .value _ => []

def stepsTree : List Step → List Step
  | [] => []
  | s :: rest => tree s ++ stepsTree rest

def casesTree : List (String × List Step) → List Step
  | [] => []
  | (_, branch) :: rest => stepsTree branch ++ casesTree rest

end

end Step

namespace FlowStep

def slots (s : FlowStep) : List (String × List FlowStep) :=
  [(Step.doKey, s.steps), (Step.ifNewKey, s.ifNew), (Step.ifExistsKey, s.ifExists),
    (Step.thenKey, s.thenSteps), (Step.elseKey, s.elseSteps), (Step.defaultKey, s.defaultSteps)]

def branches (s : FlowStep) : List (List FlowStep) := (s.slots ++ s.cases).map Prod.snd

/-- The step is one of the steps, or stands below one of them at some depth. -/
inductive Within : List FlowStep → FlowStep → Prop where
  | top {steps : List FlowStep} {s : FlowStep} (hs : s ∈ steps) : Within steps s
  | deeper {steps branch : List FlowStep} {s t : FlowStep} (hs : s ∈ steps)
      (hbranch : branch ∈ s.branches) (ht : Within branch t) : Within steps t

theorem within_iff {steps : List FlowStep} {t : FlowStep} :
    Within steps t ↔ ∃ s ∈ steps, t = s ∨ ∃ branch ∈ s.branches, Within branch t := by
  constructor
  · rintro (hs | ⟨hs, hbranch, ht⟩)
    · exact ⟨t, hs, .inl rfl⟩
    · exact ⟨_, hs, .inr ⟨_, hbranch, ht⟩⟩
  · rintro ⟨s, hs, rfl | ⟨branch, hbranch, ht⟩⟩
    · exact .top hs
    · exact .deeper hs hbranch ht

theorem sizeOf_lt_of_mem_branches {s t : FlowStep} {branch : List FlowStep}
    (hbranch : branch ∈ s.branches) (ht : t ∈ branch) : sizeOf t < sizeOf s := by
  obtain ⟨action, params, args, steps, ifNew, ifExists, thenSteps, elseSteps, cases,
      defaultSteps⟩ := s
  have hsmaller : sizeOf t < sizeOf branch := List.sizeOf_lt_of_mem ht
  rw [FlowStep.mk.sizeOf_spec]
  obtain ⟨⟨label, labelled⟩, hlabelled, rfl⟩ := List.mem_map.1 hbranch
  dsimp only at hsmaller
  rcases List.mem_append.1 hlabelled with hslot | hcase
  · simp only [slots, List.mem_cons, Prod.mk.injEq, List.not_mem_nil, or_false] at hslot
    rcases hslot with ⟨-, rfl⟩ | ⟨-, rfl⟩ | ⟨-, rfl⟩ | ⟨-, rfl⟩ | ⟨-, rfl⟩ | ⟨-, rfl⟩ <;> omega
  · have hcases : sizeOf (label, labelled) < sizeOf cases := List.sizeOf_lt_of_mem hcase
    rw [Prod.mk.sizeOf_spec] at hcases
    omega

theorem branches_induction {P : FlowStep → Prop}
    (h : ∀ s, (∀ branch ∈ s.branches, ∀ t ∈ branch, P t) → P s) (s : FlowStep) : P s := by
  induction hsize : sizeOf s using Nat.strongRecOn generalizing s with
  | ind n ih =>
    refine h s fun branch hbranch t ht => ih _ ?_ t rfl
    rw [← hsize]
    exact sizeOf_lt_of_mem_branches hbranch ht

end FlowStep

/-! Normalized lists of steps. -/

theorem normalizeSteps_eq_map (steps : List FlowStep) :
    normalizeSteps steps = steps.map FlowStep.normalize := by
  induction steps with
  | nil => rfl
  | cons s steps ih => rw [normalizeSteps, ih, List.map_cons]

theorem normalizeCases_eq_map (cases : List (String × List FlowStep)) :
    normalizeCases cases = cases.map fun c => (c.1, normalizeSteps c.2) := by
  induction cases with
  | nil => rfl
  | cons c cases ih => rw [normalizeCases, ih, List.map_cons]

theorem isEmpty_normalizeSteps (steps : List FlowStep) :
    (normalizeSteps steps).isEmpty = steps.isEmpty := by
  rw [normalizeSteps_eq_map, List.isEmpty_map]

namespace Step

/-! Arguments after a branch has been added. -/

theorem get?_addBranch (key q : String) (branch : List Step) (args : Dict StepArg) :
    (addBranch key branch args).get? q =
      if q = key ∧ branch ≠ [] then some (.steps branch) else args.get? q := by
  cases branch with
  | nil => simp [addBranch]
  | cons s branch => simp [addBranch, Dict.get?_insert]

theorem get?_addCases (q : String) (branches : List (String × List Step)) (args : Dict StepArg) :
    (addCases branches args).get? q =
      if q = casesKey ∧ branches ≠ [] then some (.cases branches) else args.get? q := by
  cases branches with
  | nil => simp [addCases]
  | cons b branches => simp [addCases, Dict.get?_insert]

def OnlyValuesAt (key : String) (args : Dict StepArg) : Prop :=
  ∀ arg, (key, arg) ∈ args → argTree arg = []

theorem OnlyValuesAt.insert {key other : String} {args : Dict StepArg} (h : OnlyValuesAt key args)
    (hne : key ≠ other) (value : StepArg) : OnlyValuesAt key (Dict.insert other value args) := by
  intro arg harg
  rcases Dict.eq_or_mem_of_mem_insert harg with heq | hmem
  · exact absurd (congrArg Prod.fst heq) hne
  · exact h arg hmem

theorem OnlyValuesAt.addBranch {key other : String} {args : Dict StepArg}
    (h : OnlyValuesAt key args) (hne : key ≠ other) (branch : List Step) :
    OnlyValuesAt key (addBranch other branch args) := by
  unfold Step.addBranch
  split
  · exact h
  · exact h.insert hne _

theorem visited_eq (s : Step) : s.visited = s :: s.children.flatMap Flow.visited := by
  have hattach {α β : Type} (l : List α) (f : α → List β) :
      (l.attach.flatMap fun x => f x.1) = l.flatMap f := by
    rw [← List.flatMap_map (f := Subtype.val), List.attach_map_subtype_val]
  rw [visited]
  simp only [hattach]
  rfl

theorem mem_argsTree {args : List (String × StepArg)} {t : Step} :
    t ∈ argsTree args ↔ ∃ entry ∈ args, t ∈ argTree entry.2 := by
  induction args with
  | nil => simp [argsTree]
  | cons entry args ih => simp [argsTree, ih]

theorem mem_stepsTree {steps : List Step} {t : Step} :
    t ∈ stepsTree steps ↔ ∃ s ∈ steps, t ∈ s.tree := by
  induction steps with
  | nil => simp [stepsTree]
  | cons s steps ih => simp [stepsTree, ih]

theorem mem_casesTree {branches : List (String × List Step)} {t : Step} :
    t ∈ casesTree branches ↔ ∃ branch ∈ branches.map Prod.snd, t ∈ stepsTree branch := by
  induction branches with
  | nil => simp [casesTree]
  | cons b branches ih =>
    simp [casesTree, ih]

theorem tree_eq (s : Step) : s.tree = s :: argsTree s.args := by
  cases s
  rw [tree]

theorem mem_tree_of_lookup {s t : Step} {key : String} {arg : StepArg}
    (h : s.args.lookup key = some arg)
    (ht : t ∈ argTree arg) : t ∈ s.tree := by
  obtain ⟨before, after, hargs, -⟩ := List.lookup_eq_some_iff.1 h
  have hmem : (key, arg) ∈ s.args := hargs ▸ List.mem_append_right _ List.mem_cons_self
  rw [tree_eq]
  exact List.mem_cons_of_mem _ (mem_argsTree.2 ⟨_, hmem, ht⟩)

theorem mem_tree_of_mem_branch {s t u : Step} {key : String} (ht : t ∈ s.branch key)
    (hu : u ∈ t.tree) :
    u ∈ s.tree := by
  unfold branch at ht
  split at ht
  next steps hlookup =>
    refine mem_tree_of_lookup hlookup ?_
    rw [argTree]
    exact mem_stepsTree.2 ⟨t, ht, hu⟩
  next => exact absurd ht List.not_mem_nil

theorem mem_tree_of_mem_cases {s t u : Step} {b : String × List Step} (hb : b ∈ s.cases?.getD [])
    (ht : t ∈ b.2) (hu : u ∈ t.tree) : u ∈ s.tree := by
  unfold cases? at hb
  split at hb
  next branches hlookup =>
    refine mem_tree_of_lookup hlookup ?_
    rw [argTree]
    exact mem_casesTree.2 ⟨b.2, List.mem_map_of_mem hb, mem_stepsTree.2 ⟨t, ht, hu⟩⟩
  next => exact absurd hb List.not_mem_nil

theorem mem_argsTree_insert {key : String} {args : Dict StepArg} (h : OnlyValuesAt key args)
    {arg : StepArg} {t : Step} :
    t ∈ argsTree (args.insert key arg) ↔ t ∈ argTree arg ∨ t ∈ argsTree args := by
  simp only [mem_argsTree]
  constructor
  · rintro ⟨entry, hentry, ht⟩
    rcases Dict.eq_or_mem_of_mem_insert hentry with rfl | hmem
    · exact .inl ht
    · exact .inr ⟨entry, hmem, ht⟩
  · rintro (ht | ⟨⟨k, old⟩, hentry, ht⟩)
    · exact ⟨(key, arg), Dict.mem_insert_self, ht⟩
    · -- an entry with the same key would have held a value, and no steps
      have hne : k ≠ key := by
        rintro rfl
        rw [h old hentry] at ht
        exact List.not_mem_nil ht
      exact ⟨(k, old), Dict.mem_insert_of_ne hne hentry, ht⟩

theorem mem_argsTree_addBranch {key : String} {args : Dict StepArg} (h : OnlyValuesAt key args)
    {branch : List Step} {t : Step} :
    t ∈ argsTree (addBranch key branch args) ↔ t ∈ stepsTree branch ∨ t ∈ argsTree args := by
  cases branch with
  | nil => simp [addBranch, stepsTree]
  | cons s branch =>
    rw [addBranch, List.isEmpty_cons, if_neg Bool.false_ne_true, mem_argsTree_insert h, argTree]

theorem mem_argsTree_addCases {args : Dict StepArg} (h : OnlyValuesAt casesKey args)
    {branches : List (String × List Step)} {t : Step} :
    t ∈ argsTree (addCases branches args) ↔ t ∈ casesTree branches ∨ t ∈ argsTree args := by
  cases branches with
  | nil => simp [addCases, casesTree]
  | cons b branches =>
    rw [addCases, List.isEmpty_cons, if_neg Bool.false_ne_true, mem_argsTree_insert h, argTree]

def addSlots (slots : List (String × List FlowStep)) (args : Dict StepArg) : Dict StepArg :=
  slots.foldl (fun args slot => addBranch slot.1 (normalizeSteps slot.2) args) args

variable {slots : List (String × List FlowStep)} {args : Dict StepArg}

theorem get?_addSlots_of_not_mem {q : String} (hq : q ∉ slots.map Prod.fst) :
    (addSlots slots args).get? q = args.get? q := by
  induction slots generalizing args with
  | nil => rfl
  | cons slot slots ih =>
    rw [List.map_cons, List.mem_cons, not_or] at hq
    rw [addSlots, List.foldl_cons]
    exact (ih hq.2).trans ((get?_addBranch ..).trans (if_neg fun h => hq.1 h.1))

theorem get?_addSlots_of_mem (hkeys : (slots.map Prod.fst).Nodup) {key : String}
    {branch : List FlowStep} (hslot : (key, branch) ∈ slots) : (addSlots slots args).get? key =
      if branch = [] then args.get? key else some (.steps (normalizeSteps branch)) := by
  induction slots generalizing args with
  | nil => exact absurd hslot List.not_mem_nil
  | cons slot slots ih =>
    rw [List.map_cons, List.nodup_cons] at hkeys
    rw [addSlots, List.foldl_cons]
    rcases List.mem_cons.1 hslot with rfl | hslot
    · refine (get?_addSlots_of_not_mem hkeys.1).trans ((get?_addBranch ..).trans ?_)
      by_cases hempty : branch = []
      · simp [hempty, normalizeSteps]
      · simp [hempty, normalizeSteps_eq_map]
    · have hne : key ≠ slot.1 := fun h => hkeys.1 (h ▸ List.mem_map_of_mem hslot)
      have hkept : (addBranch slot.1 (normalizeSteps slot.2) args).get? key = args.get? key :=
        (get?_addBranch ..).trans (if_neg fun h => hne h.1)
      exact hkept ▸ ih hkeys.2 hslot

theorem OnlyValuesAt.addSlots {key : String} (h : OnlyValuesAt key args)
    (hkey : key ∉ slots.map Prod.fst) : OnlyValuesAt key (addSlots slots args) := by
  induction slots generalizing args with
  | nil => exact h
  | cons slot slots ih =>
    rw [List.map_cons, List.mem_cons, not_or] at hkey
    exact ih (h.addBranch hkey.1 _) hkey.2

theorem mem_argsTree_addSlots (hkeys : (slots.map Prod.fst).Nodup)
    (h : ∀ slot ∈ slots, OnlyValuesAt slot.1 args) {t : Step} : t ∈ argsTree (addSlots slots args) ↔
      (∃ slot ∈ slots, t ∈ stepsTree (normalizeSteps slot.2)) ∨ t ∈ argsTree args := by
  induction slots generalizing args with
  | nil => simp [addSlots]
  | cons slot slots ih =>
    rw [List.map_cons, List.nodup_cons] at hkeys
    rw [List.forall_mem_cons] at h
    have hrest : ∀ other ∈ slots,
        OnlyValuesAt other.1 (Step.addBranch slot.1 (normalizeSteps slot.2) args) := by
      intro other hother
      refine (h.2 other hother).addBranch (fun heq => hkeys.1 ?_) _
      exact heq ▸ List.mem_map_of_mem hother
    rw [addSlots, List.foldl_cons]
    refine (ih hkeys.2 hrest).trans ?_
    rw [mem_argsTree_addBranch h.1, List.exists_mem_cons_iff, or_left_comm, or_assoc]

end Step

namespace FlowStep

open Step

def values (s : FlowStep) : Dict StepArg := Dict.mapValues (fun _ => StepArg.value) s.args

@[simp] theorem action_normalize (s : FlowStep) : s.normalize.action = s.action := by
  cases s
  rw [normalize]

theorem args_normalize (s : FlowStep) :
    s.normalize.args = addCases (normalizeCases s.cases) (addSlots s.slots s.values) := by
  cases s
  rw [normalize]
  rfl

theorem nodup_slots (s : FlowStep) : (s.slots.map Prod.fst).Nodup := by
  show branchKeys.Nodup
  decide

theorem casesKey_not_mem_slots (s : FlowStep) : casesKey ∉ s.slots.map Prod.fst := by
  show casesKey ∉ branchKeys
  decide

theorem onlyValuesAt_values (s : FlowStep) (key : String) : OnlyValuesAt key s.values := by
  intro arg harg
  obtain ⟨entry, -, heq⟩ := List.mem_map.1 harg
  obtain rfl : StepArg.value entry.2 = arg := congrArg Prod.snd heq
  rfl

theorem mem_tree_normalize {s : FlowStep} {t : Step} : t ∈ s.normalize.tree ↔
    t = s.normalize ∨ ∃ branch ∈ s.branches, t ∈ stepsTree (normalizeSteps branch) := by
  have hvalues : ¬ t ∈ argsTree s.values := by
    rw [mem_argsTree]
    rintro ⟨⟨key, arg⟩, hentry, ht⟩
    rw [onlyValuesAt_values s key arg hentry] at ht
    exact List.not_mem_nil ht
  have hslots :=
    mem_argsTree_addSlots (t := t) s.nodup_slots fun slot _ => onlyValuesAt_values s slot.1
  have hcases := (onlyValuesAt_values s casesKey).addSlots s.casesKey_not_mem_slots
  rw [tree_eq, List.mem_cons, args_normalize, mem_argsTree_addCases hcases, hslots, mem_casesTree,
    normalizeCases_eq_map, or_iff_left hvalues]
  simp only [branches, List.map_append, List.mem_append, List.mem_map, or_and_right, exists_or,
    exists_exists_and_eq_and]
  rw [or_comm (a := ∃ a ∈ s.cases, _)]

theorem mem_stepsTree_normalizeSteps_iff_exists {steps : List FlowStep} {t : Step} :
    t ∈ stepsTree (normalizeSteps steps) ↔ ∃ s ∈ steps, t ∈ s.normalize.tree := by
  simp [mem_stepsTree, normalizeSteps_eq_map]

theorem normalize_mem_of_within {steps : List FlowStep} {s : FlowStep} (h : Within steps s) :
    s.normalize ∈ stepsTree (normalizeSteps steps) := by
  induction h with
  | top hs =>
    exact mem_stepsTree_normalizeSteps_iff_exists.2 ⟨_, hs, mem_tree_normalize.2 (.inl rfl)⟩
  | deeper hs hbranch _ ih =>
    exact mem_stepsTree_normalizeSteps_iff_exists.2
      ⟨_, hs, mem_tree_normalize.2 (.inr ⟨_, hbranch, ih⟩)⟩

theorem exists_within_of_mem_tree (s : FlowStep) {t : Step} (ht : t ∈ s.normalize.tree) :
    ∃ u, (u = s ∨ ∃ branch ∈ s.branches, Within branch u) ∧ u.normalize = t := by
  induction s using branches_induction with
  | h s ih =>
    rcases mem_tree_normalize.1 ht with rfl | ⟨branch, hbranch, ht⟩
    · exact ⟨s, .inl rfl, rfl⟩
    · obtain ⟨b, hb, ht⟩ := mem_stepsTree_normalizeSteps_iff_exists.1 ht
      obtain ⟨u, hu, rfl⟩ := ih branch hbranch b hb ht
      exact ⟨u, .inr ⟨branch, hbranch, within_iff.2 ⟨b, hb, hu⟩⟩, rfl⟩

/-- The steps of a flow in the uniform shape are those within the flow as declared. -/
theorem mem_stepsTree_normalizeSteps {steps : List FlowStep} {t : Step} :
    t ∈ stepsTree (normalizeSteps steps) ↔ ∃ s, Within steps s ∧ s.normalize = t := by
  constructor
  · intro ht
    obtain ⟨s, hs, ht⟩ := mem_stepsTree_normalizeSteps_iff_exists.1 ht
    obtain ⟨u, hu, rfl⟩ := exists_within_of_mem_tree s ht
    exact ⟨u, within_iff.2 ⟨s, hs, hu⟩, rfl⟩
  · rintro ⟨s, hs, rfl⟩
    exact normalize_mem_of_within hs

/-! What is found under a key. -/

theorem get?_values (s : FlowStep) (q : String) :
    s.values.get? q = (s.args.get? q).map StepArg.value :=
  Dict.get?_mapValues ..

theorem lookup_args_normalize (s : FlowStep) (q : String) : List.lookup q s.normalize.args =
    if q = casesKey ∧ normalizeCases s.cases ≠ [] then some (.cases (normalizeCases s.cases))
    else (addSlots s.slots s.values).get? q := by
  rw [args_normalize]
  exact get?_addCases ..

theorem arg_normalize {s : FlowStep} {q : String} (hslot : q ∉ branchKeys) (hcases : q ≠ casesKey)
    {name : String} (hname : name ≠ "") :
    s.normalize.arg q = name ↔ ∃ text, s.args.get? q = some (.str text) ∧
    Text.trim text = name := by
  unfold arg value?
  rw [lookup_args_normalize, if_neg fun h => hcases h.1,
    get?_addSlots_of_not_mem hslot, get?_values]
  cases s.args.get? q with
  | none => simp [hname.symm]
  | some v => cases v <;> simp [hname.symm]

theorem branch_normalize {s : FlowStep} {key : String} {branch : List FlowStep}
    (hslot : (key, branch) ∈ s.slots) : s.normalize.branch key = normalizeSteps branch := by
  have hkey : key ∈ s.slots.map Prod.fst := List.mem_map_of_mem hslot
  have hne : key ≠ casesKey := fun h => s.casesKey_not_mem_slots (h ▸ hkey)
  unfold Step.branch
  rw [lookup_args_normalize, if_neg fun h => hne h.1, get?_addSlots_of_mem s.nodup_slots hslot,
    get?_values]
  by_cases hempty : branch = []
  · -- an argument that the user gave under the key is a value
    rw [if_pos hempty, hempty, normalizeSteps]
    cases s.args.get? key <;> rfl
  · rw [if_neg hempty]

theorem cases?_normalize (s : FlowStep) : s.normalize.cases?.getD [] = normalizeCases s.cases := by
  unfold Step.cases?
  rw [lookup_args_normalize, get?_addSlots_of_not_mem s.casesKey_not_mem_slots, get?_values]
  by_cases hempty : normalizeCases s.cases = []
  · rw [if_neg fun h => h.2 hempty, hempty]
    cases s.args.get? casesKey <;> rfl
  · rw [if_pos ⟨rfl, hempty⟩]
    rfl

theorem children_normalize (s : FlowStep) :
    s.normalize.children = (s.branches.filter (!·.isEmpty)).map normalizeSteps := by
  have hslots : branchKeys.map s.normalize.branch = (s.slots.map Prod.snd).map normalizeSteps := by
    show (s.slots.map Prod.fst).map s.normalize.branch = _
    rw [List.map_map, List.map_map]
    exact List.map_congr_left fun slot hslot => branch_normalize hslot
  have hcases : (s.normalize.cases?.getD []).map Prod.snd =
      (s.cases.map Prod.snd).map normalizeSteps := by
    rw [cases?_normalize, normalizeCases_eq_map, List.map_map, List.map_map]
    rfl
  rw [children, hslots, hcases, ← List.map_append, ← List.map_append, List.filter_map]
  congr 2
  funext branch
  rw [Function.comp_apply, isEmpty_normalizeSteps]

/-! What is visited. -/

theorem mem_visited_normalize {s : FlowStep} {t : Step} : t ∈ s.normalize.visited ↔
    t = s.normalize ∨ ∃ branch ∈ s.branches, t ∈ Flow.visited (normalizeSteps branch) := by
  rw [visited_eq, List.mem_cons, children_normalize, List.flatMap_map, List.mem_flatMap]
  refine or_congr_right ⟨fun ⟨branch, hbranch, ht⟩ => ⟨branch, List.mem_of_mem_filter hbranch, ht⟩,
    ?_⟩
  rintro ⟨branch, hbranch, ht⟩
  refine ⟨branch, List.mem_filter.2 ⟨hbranch, ?_⟩, ht⟩
  -- nothing is visited in an empty branch
  cases branch with
  | nil => exact absurd ht List.not_mem_nil
  | cons s branch => rfl

theorem visited_normalize_iff (s : FlowStep) {t : Step} :
    t ∈ s.normalize.visited ↔ t ∈ s.normalize.tree := by
  induction s using branches_induction with
  | h s ih =>
    rw [mem_visited_normalize, mem_tree_normalize]
    refine or_congr_right (exists_congr fun branch => and_congr_right fun hbranch => ?_)
    simp only [Flow.visited, List.mem_flatMap, mem_stepsTree, normalizeSteps_eq_map, List.mem_map,
      exists_exists_and_eq_and]
    exact exists_congr fun b => and_congr_right fun hb => ih branch hbranch b hb

/-- Going down into children visits all steps of a flow in the uniform shape. -/
theorem mem_visited_iff_mem_stepsTree {steps : List FlowStep} {t : Step} :
    t ∈ Flow.visited (normalizeSteps steps) ↔ t ∈ stepsTree (normalizeSteps steps) := by
  simp [Flow.visited, mem_stepsTree, normalizeSteps_eq_map, visited_normalize_iff]

theorem mem_visited_normalizeSteps {steps : List FlowStep} {t : Step} :
    t ∈ Flow.visited (normalizeSteps steps) ↔ ∃ s, Within steps s ∧ s.normalize = t :=
  mem_visited_iff_mem_stepsTree.trans mem_stepsTree_normalizeSteps

end FlowStep

end GoScaffold
