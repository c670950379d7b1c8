import GoScaffold.Flow.Lowering
import GoScaffold.Proofs.Flow.Normalization
import Mathlib.Data.List.Basic

/-! Where the parts of a flow's code come from. Every part is due to one step of the flow, at
whatever depth: a repository's field to a step that names the repository, the publisher's field to a
step that publishes, and other texts to the step's own arguments. The words of the lowering itself
select no field of the service. -/

namespace GoScaffold.Flow

def selectsField : (inside : Bool) → List Char → Bool
  | _, [] => false
  | inside, c :: rest =>
    (!inside && c == 's' && rest.head? == some '.') || selectsField (c.isAlphanum || c == '_') rest

def CodePart.From (s : Step) : CodePart → Prop
  | words text => selectsField false text.toList = false
  | given text => (∃ name, text = s.arg name) ∨ isLiteral text = true
  | quoted _ => True
  | number _ => True
  | repo entity => ∃ source, repoSource? s = some source ∧ entity = Name.exported source
  | publisher => s.action = "event.Publish"

namespace CodePart

variable {s : Step} {name other : String}

theorem from_literal {cs : List Char} (h : selectsField false cs = false) :
    (words (String.ofList cs)).From s := by
  rw [From, String.toList_ofList]
  exact h

@[simp] theorem from_arg : (given (s.arg name)).From s := .inl ⟨name, rfl⟩

@[simp] theorem from_quoted {text : String} : (quoted text).From s := trivial

@[simp] theorem from_number {n : Int} : (number n).From s := trivial

theorem from_givenOr (h : (words other).From s) : (givenOr (s.arg name) other).From s := by
  unfold givenOr
  split
  · exact h
  · exact from_arg

@[simp] theorem from_caseLabel {label : String} : (caseLabel label).From s := by
  unfold caseLabel
  split
  next h => exact .inr h
  next => exact from_quoted

end CodePart

/-! Code all parts of which have a property. -/

namespace Lowering

variable {P : CodePart → Prop}

def Has (P : CodePart → Prop) (code : Lowering) : Prop :=
  ∀ indent declared, ∀ line ∈ (code indent declared).1, ∀ part ∈ line.parts, P part

theorem Has.mono {Q : CodePart → Prop} {code : Lowering} (h : code.Has P)
    (hQ : ∀ part, P part → Q part) : code.Has Q :=
  fun indent declared line hline part hpart => hQ part (h indent declared line hline part hpart)

theorem has_none : none.Has P := fun _ _ _ hline => absurd hline List.not_mem_nil

theorem has_lines {ls : List CodeLine} (h : ∀ l ∈ ls, ∀ part ∈ l.parts, P part) :
    (lines ls).Has P := by
  intro indent declared line hline
  obtain ⟨l, hl, rfl⟩ := List.mem_map.1 hline
  exact h l hl

theorem has_line {parts : List CodePart} (h : ∀ part ∈ parts, P part) : (line parts).Has P :=
  has_lines (List.forall_mem_singleton.2 h)

theorem has_seq {a b : Lowering} (ha : a.Has P) (hb : b.Has P) : (seq a b).Has P := by
  intro indent declared line hline
  rcases List.mem_append.1 hline with hline | hline
  · exact ha indent declared line hline
  · exact hb indent _ line hline

theorem has_all {parts : List Lowering} (h : ∀ code ∈ parts, code.Has P) : (all parts).Has P := by
  induction parts with
  | nil => exact has_none
  | cons code parts ih =>
    rw [List.forall_mem_cons] at h
    exact has_seq h.1 (ih h.2)

theorem has_nested {code : Lowering} (h : code.Has P) : (nested code).Has P :=
  fun indent => h (indent + 1)

theorem has_declaring {name : String} {code : Bool → Lowering} (h : ∀ isNew, (code isNew).Has P) :
    (declaring name code).Has P := by
  intro indent declared
  unfold declaring
  split
  · exact h false indent declared
  · exact h true indent (name :: declared)

theorem has_needing {texts : List String} {code : Lowering}
    (h : (∀ text ∈ texts, text.isEmpty = false) → code.Has P) : (needing texts code).Has P := by
  unfold needing
  split
  next => exact has_none
  next hthere =>
    refine h fun text htext => ?_
    rw [List.any_eq_true, not_exists] at hthere
    simpa using fun hempty => hthere text ⟨htext, hempty⟩

theorem forall_has_unless {isEmpty : Bool} {parts : List Lowering}
    (h : ∀ code ∈ parts, code.Has P) :
    ∀ code ∈ if isEmpty then [] else parts, code.Has P := by
  cases isEmpty
  · exact h
  · exact List.forall_mem_nil _

end Lowering

/-! The code of single steps. -/

section
open CodePart Lowering

variable {s : Step} {ret : String}

def AllFrom (s : Step) (parts : List CodePart) : Prop := ∀ part ∈ parts, part.From s

@[simp] theorem allFrom_nil : AllFrom s [] ↔ True := iff_true_intro (List.forall_mem_nil _)

@[simp] theorem allFrom_cons {part : CodePart} {parts : List CodePart} :
    AllFrom s (part :: parts) ↔ part.From s ∧ AllFrom s parts := List.forall_mem_cons

@[simp] theorem allFrom_append {parts more : List CodePart} :
    AllFrom s (parts ++ more) ↔ AllFrom s parts ∧ AllFrom s more := List.forall_mem_append

theorem AllFrom.concat {parts : List CodePart} {last : CodePart} (h : AllFrom s parts)
    (hlast : last.From s) : AllFrom s (parts.concat last) := by
  rw [List.concat_eq_append, allFrom_append]
  exact ⟨h, List.forall_mem_singleton.2 hlast⟩

theorem allFrom_literal {cs : List Char} (h : selectsField false cs = false) :
    AllFrom s [words (String.ofList cs)] :=
  List.forall_mem_singleton.2 (from_literal h)

theorem has_lines_from {ls : List CodeLine} (h : AllFrom s (ls.flatMap CodeLine.parts)) :
    (lines ls).Has (CodePart.From s) :=
  has_lines fun l hl part hpart => h part (List.mem_flatMap.2 ⟨l, hl, hpart⟩)

theorem allFrom_returnError (hret : (words ret).From s) {error : List CodePart}
    (h : AllFrom s error) : AllFrom s (returnError ret error).parts :=
  allFrom_cons.2 ⟨from_literal rfl, allFrom_cons.2 ⟨hret, h⟩⟩

theorem has_guarded (hret : (words ret).From s) {head : List CodePart} (h : AllFrom s head) :
    (guarded ret head).Has (CodePart.From s) := by
  have herror := allFrom_returnError hret (allFrom_literal rfl : AllFrom s ["err"])
  refine has_lines_from ?_
  simp only [List.flatMap_cons, List.flatMap_nil, allFrom_append, herror, allFrom_nil, true_and,
    and_true]
  exact ⟨h.concat (from_literal rfl), allFrom_literal rfl⟩

theorem has_checkCode (hret : (words ret).From s) : (checkCode ret s).Has (CodePart.From s) := by
  refine has_needing fun _ => has_lines_from ?_
  simp only [List.flatMap_cons, List.flatMap_nil, returnError, allFrom_append, allFrom_cons,
    allFrom_nil, from_arg, from_quoted, hret, true_and, and_true]
  and_intros <;> exact from_literal rfl

theorem allFrom_repoCall {method : String} (hmethod : (words method).From s)
    (haction : Text.startsWith s.action "repo." = true)
    (hsource : (s.arg "source").isEmpty = false) :
    AllFrom s (repoCall s method) := by
  have hnamed : repoSource? s = some (s.arg "source") := by simp [repoSource?, haction, hsource]
  have hrepo : (repo (Name.exported (s.arg "source"))).From s := ⟨_, hnamed, rfl⟩
  have hmore : AllFrom s (if (s.arg "input").isEmpty then []
      else [", ", given (s.arg "input")]) := by
    split
    · exact allFrom_nil.2 trivial
    · exact allFrom_cons.2 ⟨from_literal rfl, List.forall_mem_singleton.2 from_arg⟩
  simp only [repoCall, allFrom_cons]
  exact ⟨hrepo, from_literal rfl, from_givenOr hmethod, from_literal rfl,
    hmore.concat (from_literal rfl)⟩

theorem has_fetchCode (hret : (words ret).From s) {method : String}
    (hmethod : (words method).From s)
    (haction : Text.startsWith s.action "repo." = true) :
    (fetchCode ret s method).Has (CodePart.From s) := by
  refine has_needing fun hsource => ?_
  have hcall := allFrom_repoCall hmethod haction (hsource _ List.mem_cons_self)
  split
  · refine has_guarded hret (allFrom_cons.2 ⟨from_literal rfl, ?_⟩)
    exact hcall.concat (from_literal rfl)
  · refine has_declaring fun isNew => has_seq (has_line ?_) (has_guarded hret (allFrom_literal rfl))
    have hop : (if isNew = true then words ":=" else words "=").From s := by
      split <;> exact from_literal rfl
    exact allFrom_cons.2 ⟨from_arg, allFrom_cons.2 ⟨from_literal rfl, allFrom_cons.2
      ⟨hop, allFrom_cons.2 ⟨from_literal rfl, hcall⟩⟩⟩⟩

theorem has_storeCode (hret : (words ret).From s) {method : String}
    (hmethod : (words method).From s)
    (haction : Text.startsWith s.action "repo." = true) :
    (storeCode ret s method).Has (CodePart.From s) := by
  refine has_needing fun hsource => has_guarded hret (allFrom_cons.2 ⟨from_literal rfl, ?_⟩)
  have hcall := allFrom_repoCall hmethod haction (hsource _ List.mem_cons_self)
  exact hcall.concat (from_literal rfl)

theorem has_assignCode : (assignCode s).Has (CodePart.From s) := by
  have hassign : ∀ op, (words op).From s →
      AllFrom s [given (s.arg "to"), " ", words op, " ", given (s.arg "value")] := by
    intro op hop
    simp only [allFrom_cons, allFrom_nil, from_arg, true_and, and_true]
    exact ⟨from_literal rfl, hop, from_literal rfl⟩
  refine has_needing fun _ => ?_
  split
  · refine has_declaring fun isNew => has_line (hassign _ ?_)
    cases isNew
    · exact from_literal rfl
    · exact from_literal rfl
  · exact has_line (hassign _ (from_literal rfl))

theorem has_filterCode : (filterCode s).Has (CodePart.From s) := by
  have hitem : (givenOr (s.arg "as") "item").From s := from_givenOr (from_literal rfl)
  refine has_needing fun _ => has_declaring fun _ => has_lines_from ?_
  simp only [List.flatMap_cons, List.flatMap_nil, allFrom_append, allFrom_cons,
    allFrom_nil, from_arg, hitem, true_and, and_true]
  and_intros <;> exact from_literal rfl

theorem has_paginateCode : (paginateCode s).Has (CodePart.From s) := by
  refine has_needing fun _ => has_declaring fun _ => has_lines_from ?_
  simp only [List.flatMap_cons, List.flatMap_nil, allFrom_append, allFrom_cons,
    allFrom_nil, from_arg, from_number, true_and, and_true]
  and_intros <;> exact from_literal rfl

theorem has_appendCode : (appendCode s).Has (CodePart.From s) := by
  refine has_needing fun _ => has_lines_from ?_
  simp only [List.flatMap_cons, List.flatMap_nil, allFrom_append, allFrom_cons,
    allFrom_nil, from_arg, true_and, and_true]
  and_intros <;> exact from_literal rfl

theorem has_sortCode : (sortCode s).Has (CodePart.From s) := by
  have hcmp : (words (if Text.sameLetters (s.arg "order") "desc" then " > " else " < ")).From
      s := by
    split <;> exact from_literal rfl
  refine has_needing fun _ => has_declaring fun _ => has_lines_from ?_
  simp only [List.flatMap_cons, List.flatMap_nil, allFrom_append, allFrom_cons,
    allFrom_nil, from_arg, hcmp, true_and, and_true]
  and_intros <;> exact from_literal rfl

theorem has_normalizeCode : (normalizeCode s).Has (CodePart.From s) := by
  have hcall : ∀ before after, (words before).From s → (words after).From s →
      AllFrom s [given (s.arg "output"), words before, given (s.arg "input"), words after] := by
    intro before after hbefore hafter
    simp only [allFrom_cons, allFrom_nil, from_arg, hbefore, hafter, and_true]
  refine has_needing fun _ => has_declaring fun _ => ?_
  split
  · exact has_line (hcall _ _ (from_literal rfl) (from_literal rfl))
  · exact has_line (hcall _ _ (from_literal rfl) (from_literal rfl))

theorem has_publishCode (hret : (words ret).From s) (haction : s.action = "event.Publish") :
    (publishCode ret s).Has (CodePart.From s) := by
  have hpayload : (givenOr (s.arg "payload") "nil").From s := from_givenOr (from_literal rfl)
  have hpublisher : publisher.From s := haction
  refine has_needing fun _ => has_guarded hret ?_
  simp only [allFrom_cons, allFrom_nil, from_quoted, hpayload, hpublisher, true_and, and_true]
  and_intros <;> exact from_literal rfl

/-! Steps with branches. -/

theorem startsWith_of_repoAction {action method : String} {a : Action}
    (ha : a = .fetch method ∨ a = .store method) (h : Action.ofName? action = some a) :
    Text.startsWith action "repo." = true ∧ (words method).From s := by
  rcases ha with rfl | rfl <;> unfold Action.ofName? at h <;> split at h <;> cases h <;>
    exact ⟨by decide, from_literal rfl⟩

theorem eq_of_publish {action : String} (h : Action.ofName? action = some .publish) :
    action = "event.Publish" := by
  unfold Action.ofName? at h
  split at h <;> cases h
  rfl

def Branch.Has (P : CodePart → Prop) : Branch → Prop
  | .steps _ code => code.Has P
  | .cases branches => ∀ b ∈ branches, b.2.Has P
  | .value => True

namespace Branch

variable {P : CodePart → Prop} {branches : List (String × Branch)} {key : String}

theorem has_of_lookup (h : ∀ b ∈ branches, b.2.Has P) {branch : Branch}
    (hbranch : branches.lookup key = some branch) : branch.Has P := by
  induction branches with
  | nil => cases hbranch
  | cons b branches ih =>
    obtain ⟨hb, h⟩ := List.forall_mem_cons.1 h
    rw [List.lookup_cons] at hbranch
    split at hbranch
    · cases hbranch
      exact hb
    · exact ih h hbranch

theorem has_codeAt (h : ∀ b ∈ branches, b.2.Has P) : (codeAt branches key).Has P := by
  unfold codeAt
  split
  next hkey => exact has_of_lookup h hkey
  next => exact has_none

theorem has_casesAt (h : ∀ b ∈ branches, b.2.Has P) : ∀ b ∈ casesAt branches key, b.2.Has P := by
  unfold casesAt
  split
  next hkey => exact has_of_lookup h hkey
  next => exact List.forall_mem_nil _

end Branch

section

variable {P : CodePart → Prop} (hP : ∀ part, part.From s → P part)
include hP

theorem has_line_from {parts : List CodePart} (h : AllFrom s parts) : (line parts).Has P :=
  (has_line h).mono hP

theorem has_ifElse {cond : List CodePart} (hcond : AllFrom s cond) {thenCode elseCode : Lowering}
    (hthen : thenCode.Has P) {elseIsEmpty : Bool} (helse : elseCode.Has P) :
    (ifElse cond thenCode elseIsEmpty elseCode).Has P := by
  have hopen : AllFrom s ("if " :: cond.concat " \x7b") :=
    allFrom_cons.2 ⟨from_literal rfl, hcond.concat (from_literal rfl)⟩
  have hclose : (line ["\x7d"]).Has P := has_line_from hP (allFrom_literal rfl)
  refine has_all (List.forall_mem_append.2 ⟨?_, ?_⟩)
  · exact List.forall_mem_cons.2
      ⟨has_line_from hP hopen, List.forall_mem_singleton.2 (has_nested hthen)⟩
  · split
    · exact List.forall_mem_singleton.2 hclose
    · exact List.forall_mem_cons.2 ⟨has_line_from hP (allFrom_literal rfl),
        List.forall_mem_cons.2 ⟨has_nested helse, List.forall_mem_singleton.2 hclose⟩⟩

theorem has_switchCase {label : String} {code : Lowering} (hcode : code.Has P) :
    ∀ part ∈ [line ["case ", caseLabel label, ":"], nested code], part.Has P := by
  have hlabel : AllFrom s ["case ", caseLabel label, ":"] := by
    simp only [allFrom_cons, allFrom_nil, from_caseLabel, true_and, and_true]
    exact ⟨from_literal rfl, from_literal rfl⟩
  exact List.forall_mem_cons.2
    ⟨has_line_from hP hlabel, List.forall_mem_singleton.2 (has_nested hcode)⟩

/-- The parts of a step's code are due to the step, or stand in the code of its branches. -/
theorem has_stepCode (hret : (words ret).From s) {branches : List (String × Branch)}
    (h : ∀ b ∈ branches, b.2.Has P) : (stepCode ret s branches).Has P := by
  have hbranch : ∀ key, (Branch.codeAt branches key).Has P := fun _ => Branch.has_codeAt h
  have hclose : (line ["\x7d"]).Has P := has_line_from hP (allFrom_literal rfl)
  unfold stepCode
  cases haction : Action.ofName? s.action with
  | none => exact has_none
  | some action =>
    cases action with
    | check => exact (has_checkCode hret).mono hP
    | fetch method =>
      obtain ⟨hrepo, hmethod⟩ := startsWith_of_repoAction (.inl rfl) haction
      exact (has_fetchCode hret hmethod hrepo).mono hP
    | store method =>
      obtain ⟨hrepo, hmethod⟩ := startsWith_of_repoAction (.inr rfl) haction
      exact (has_storeCode hret hmethod hrepo).mono hP
    | assign => exact has_assignCode.mono hP
    | conditional =>
      refine has_needing fun _ => has_ifElse hP ?_ (hbranch _) (hbranch _)
      exact List.forall_mem_singleton.2 from_arg
    | upsert =>
      refine has_needing fun _ => has_ifElse hP ?_ (hbranch _) (hbranch _)
      exact allFrom_cons.2 ⟨from_arg, allFrom_literal rfl⟩
    | switch =>
      have hopen : AllFrom s ["switch ", given (s.arg "value"), " \x7b"] := by
        simp only [allFrom_cons, allFrom_nil, from_arg, true_and, and_true]
        exact ⟨from_literal rfl, from_literal rfl⟩
      refine has_needing fun _ => has_all ?_
      simp only [List.forall_mem_append, List.forall_mem_singleton]
      refine ⟨⟨⟨has_line_from hP hopen, fun code hcode => ?_⟩, ?_⟩, hclose⟩
      · obtain ⟨⟨label, labelled⟩, hlabelled, hcode⟩ := List.mem_flatMap.1 hcode
        exact has_switchCase hP (Branch.has_casesAt h _ hlabelled) code hcode
      · refine forall_has_unless (List.forall_mem_cons.2 ⟨has_line_from hP (allFrom_literal rfl),
          ?_⟩)
        exact List.forall_mem_singleton.2 (has_nested (hbranch _))
    | each =>
      have hitem : (givenOr (s.arg "as") "item").From s := from_givenOr (from_literal rfl)
      have hopen : AllFrom s ["for _, ", givenOr (s.arg "as") "item", " := range ",
          given (s.arg "each"), " \x7b"] := by
        simp only [allFrom_cons, allFrom_nil, from_arg, hitem, true_and, and_true]
        and_intros <;> exact from_literal rfl
      refine has_needing fun _ => has_all (List.forall_mem_cons.2 ⟨has_line_from hP hopen, ?_⟩)
      exact List.forall_mem_cons.2 ⟨has_nested (hbranch _), List.forall_mem_singleton.2 hclose⟩
    | block => exact hbranch _
    | filter => exact has_filterCode.mono hP
    | paginate => exact has_paginateCode.mono hP
    | append => exact has_appendCode.mono hP
    | sort => exact has_sortCode.mono hP
    | normalize => exact has_normalizeCode.mono hP
    | publish => exact (has_publishCode hret (eq_of_publish haction)).mono hP

end

end

/-! Whole flows. -/

def CodePart.FromSome (steps : List Step) (part : CodePart) : Prop := ∃ s ∈ steps, part.From s

theorem CodePart.FromSome.mono {steps more : List Step} {part : CodePart} (h : part.FromSome steps)
    (hsub : steps ⊆ more) : part.FromSome more :=
  h.imp fun _ hs => ⟨hsub hs.1, hs.2⟩

theorem Lowering.Has.fromSome_mono {steps more : List Step} {code : Lowering}
    (h : code.Has (CodePart.FromSome steps)) (hsub : steps ⊆ more) :
    code.Has (CodePart.FromSome more) :=
  h.mono fun _ hpart => hpart.mono hsub

theorem Branch.Has.fromSome_mono {steps more : List Step} {branch : Branch}
    (h : branch.Has (CodePart.FromSome steps)) (hsub : steps ⊆ more) :
    branch.Has (CodePart.FromSome more) := by
  cases branch with
  | steps isEmpty code => exact Lowering.Has.fromSome_mono h hsub
  | cases branches => exact fun b hb => (h b hb).fromSome_mono hsub
  | value => trivial

section

variable {ret : String}

mutual

theorem has_lowerStep (hret : ∀ s, (CodePart.words ret).From s) :
    ∀ s : Step, (lowerStep ret s).Has (CodePart.FromSome s.tree)
  | ⟨action, params, args⟩ => by
    rw [lowerStep, Step.tree]
    refine has_stepCode (fun part hpart => ⟨_, List.mem_cons_self, hpart⟩) (hret _) fun b hb => ?_
    exact (has_lowerArgs hret args b hb).fromSome_mono (List.subset_cons_self _ _)

theorem has_lowerArgs (hret : ∀ s, (CodePart.words ret).From s) :
    ∀ args : List (String × StepArg),
    ∀ b ∈ lowerArgs ret args, b.2.Has (CodePart.FromSome (Step.argsTree args))
  | [] => by
    rw [lowerArgs]
    exact List.forall_mem_nil _
  | (key, arg) :: rest => by
    rw [lowerArgs, Step.argsTree, List.forall_mem_cons]
    refine ⟨(has_lowerArg hret arg).fromSome_mono (List.subset_append_left _ _), fun b hb => ?_⟩
    exact (has_lowerArgs hret rest b hb).fromSome_mono (List.subset_append_right _ _)

theorem has_lowerArg (hret : ∀ s, (CodePart.words ret).From s) :
    ∀ arg : StepArg, (lowerArg ret arg).Has (CodePart.FromSome (Step.argTree arg))
  | .steps branch => by
    rw [lowerArg, Step.argTree]
    exact has_lowerSteps hret branch
  | .cases branches => by
    rw [lowerArg, Step.argTree]
    exact has_lowerCases hret branches
  | .value v => by
    rw [lowerArg]
    trivial

theorem has_lowerSteps (hret : ∀ s, (CodePart.words ret).From s) :
    ∀ flow : List Step, (lowerSteps ret flow).Has (CodePart.FromSome (Step.stepsTree flow))
  | [] => by
    rw [lowerSteps]
    exact Lowering.has_none
  | s :: rest => by
    rw [lowerSteps, Step.stepsTree]
    exact Lowering.has_seq ((has_lowerStep hret s).fromSome_mono (List.subset_append_left _ _))
      ((has_lowerSteps hret rest).fromSome_mono (List.subset_append_right _ _))

theorem has_lowerCases (hret : ∀ s, (CodePart.words ret).From s) :
    ∀ branches : List (String × List Step),
    ∀ b ∈ lowerCases ret branches, b.2.Has (CodePart.FromSome (Step.casesTree branches))
  | [] => by
    rw [lowerCases]
    exact List.forall_mem_nil _
  | (label, branch) :: rest => by
    rw [lowerCases, Step.casesTree, List.forall_mem_cons]
    refine ⟨(has_lowerSteps hret branch).fromSome_mono (List.subset_append_left _ _),
      fun b hb => ?_⟩
    exact (has_lowerCases hret rest b hb).fromSome_mono (List.subset_append_right _ _)

end

end

/-- Every part of a flow's code is due to a step of the flow. -/
theorem fromSome_of_mem_code {flow : List Step} {hasOutput : Bool} {line : CodeLine}
    (hline : line ∈ code flow hasOutput) {part : CodePart} (hpart : part ∈ line.parts) :
    part.FromSome (Step.stepsTree flow) := by
  have hret : ∀ s, (CodePart.words (if hasOutput then "resp, " else "")).From s := by
    intro s
    split <;> exact CodePart.from_literal rfl
  exact has_lowerSteps hret flow 0 _ line hline part hpart

end GoScaffold.Flow
