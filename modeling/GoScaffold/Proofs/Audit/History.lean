import GoScaffold.Proofs.Audit

/-! The history of an audit. Whatever is done to an audit, entries are submitted to it one after the
other. Where the names of services and methods let the key be taken apart again, the audit holds the
entries of its history, each once and in the order of first sight, and it refuses an entry exactly
if the entry is in its history already. -/

namespace GoScaffold

namespace MissingMethod

/-- The key can be taken apart: the name of the service has no dot, and that of the method no bar.
The source may have both. -/
def Separable (m : MissingMethod) : Prop := '.' ∉ m.service.toList ∧ '|' ∉ m.method.toList

instance (m : MissingMethod) : Decidable m.Separable := inferInstanceAs (Decidable (_ ∧ _))

theorem Separable.eq_of_key_eq {m n : MissingMethod} (hm : m.Separable) (hn : n.Separable)
    (hkey : m.key = n.key) : m = n := by
  have hchars : m.key.toList = n.key.toList := congrArg String.toList hkey
  rw [toList_key, toList_key] at hchars
  obtain ⟨hservice, -⟩ := cut_unique hm.1 hn.1 hchars
  exact MissingMethod.eq_of_key_eq (String.toList_inj.1 hservice) hm.2 hn.2 hkey

theorem keysTell_of_separable {ms : List MissingMethod} (h : ∀ m ∈ ms, m.Separable) : KeysTell ms :=
  fun m hm n hn => (h m hm).eq_of_key_eq (h n hn)

end MissingMethod

namespace Audit

open MissingMethod

inductive Operation where
  | record (m : MissingMethod)
  | auditService (s : Model.Service) (overrides : List String)
  | merge (other : Audit)

namespace Operation

def apply (a : Audit) : Operation → Audit
  | record m => a.record m
  | auditService s overrides => a.auditService s overrides
  | merge other => a.merge other

def submitted : Operation → List MissingMethod
  | record m => [m]
  | auditService s overrides => missing s overrides
  | merge other => other.entries

theorem apply_eq_recordAll (a : Audit) (op : Operation) :
    op.apply a = a.recordAll op.submitted := by
  cases op with
  | record m => rfl
  | auditService s overrides => rfl
  | merge other => rfl

end Operation

def after (ops : List Operation) : Audit := ops.foldl Operation.apply {}

def history (ops : List Operation) : List MissingMethod := ops.flatMap Operation.submitted

theorem recordAll_append (a : Audit) (ms ns : List MissingMethod) :
    a.recordAll (ms ++ ns) = (a.recordAll ms).recordAll ns := List.foldl_append

/-- Operations record what they submit and do nothing else. -/
theorem foldl_apply_eq_recordAll (a : Audit) (ops : List Operation) :
    ops.foldl Operation.apply a = a.recordAll (history ops) := by
  induction ops generalizing a with
  | nil => rfl
  | cons op ops ih =>
    have hcons : history (op :: ops) = op.submitted ++ history ops := List.flatMap_cons
    rw [List.foldl_cons, ih, Operation.apply_eq_recordAll, hcons, recordAll_append]

theorem after_eq_recordAll (ops : List Operation) : after ops = recordAll {} (history ops) :=
  foldl_apply_eq_recordAll {} ops

theorem submit_fst_eq_false_iff {a : Audit} {m : MissingMethod} :
    (a.submit m).1 = false ↔ a.has m = true := by
  rcases submit_cases a m with ⟨hm, hsubmit⟩ | ⟨hm, hsubmit⟩
  · simp [hsubmit, hm]
  · simp [hsubmit, hm]

theorem entries_after {ops : List Operation} (h : ∀ m ∈ history ops, m.Separable) :
    (after ops).entries = (history ops).eraseDups := by
  rw [after_eq_recordAll, entries_recordAll (keysTell_of_separable h)]

theorem has_after_iff {ops : List Operation} {m : MissingMethod}
    (h : ∀ n ∈ m :: history ops, n.Separable) : (after ops).has m = true ↔ m ∈ history ops := by
  have hentries := entries_after fun n hn => h n (List.mem_cons_of_mem _ hn)
  have hstep : (after ops).InStep := after_eq_recordAll ops ▸ inStep_empty.recordAll _
  have htell : KeysTell (m :: (after ops).entries) := by
    refine (keysTell_of_separable h).mono (List.cons_subset_cons m fun n hn => ?_)
    rwa [hentries, List.mem_eraseDups] at hn
  rw [has_iff_mem hstep htell, hentries, List.mem_eraseDups]

/-- After any operations an audit holds what was submitted, without repetitions and in the order of
first sight, and recording answered false exactly where an entry was a repetition. -/
theorem keeps_first_submissions (ops : List Operation) (h : ∀ m ∈ history ops, m.Separable) :
    (after ops).entries = (history ops).eraseDups ∧
    ∀ earlier m later, ops = earlier ++ .record m :: later →
      (((after earlier).submit m).1 = false ↔ m ∈ history earlier) := by
  refine ⟨entries_after h, ?_⟩
  rintro earlier m later rfl
  have hsplit : history (earlier ++ .record m :: later) = history earlier ++ m ::
      history later := by
    simp [history, Operation.submitted]
  rw [submit_fst_eq_false_iff, has_after_iff]
  intro n hn
  rw [hsplit] at h
  rcases List.mem_cons.1 hn with rfl | hn
  · exact h n (List.mem_append_right _ List.mem_cons_self)
  · exact h n (List.mem_append_left _ hn)

def desk : Model.Service :=
  { name := "Desk"
    methods := [
      { name := "Answer", source := "desk.cue|4" },
      { name := "Close", source := "desk.cue|9" },
      { name := "Escalate", implCode := "return nil" }] }

def deskOperations : List Operation :=
  [.record ⟨"Desk", "Close", "desk.cue|9"⟩, .auditService desk [],
    .merge (after [.record ⟨"Users", "Login", ""⟩, .auditService desk ["Answer"]])]

theorem history_deskOperations : history deskOperations =
    [⟨"Desk", "Close", "desk.cue|9"⟩, ⟨"Desk", "Answer", "desk.cue|4"⟩,
      ⟨"Desk", "Close", "desk.cue|9"⟩, ⟨"Users", "Login", ""⟩,
      ⟨"Desk", "Close", "desk.cue|9"⟩] := by
  decide +kernel

theorem keeps_first_submissions_desk :
    (∀ m ∈ history (deskOperations ++ [.record ⟨"Users", "Login", ""⟩]), m.Separable) ∧
    (after (deskOperations ++ [.record ⟨"Users", "Login", ""⟩])).entries =
      [⟨"Desk", "Close", "desk.cue|9"⟩, ⟨"Desk", "Answer", "desk.cue|4"⟩, ⟨"Users", "Login", ""⟩] ∧
    ((after deskOperations).submit ⟨"Users", "Login", ""⟩).1 = false := by
  have hhistory : history (deskOperations ++ [.record ⟨"Users", "Login", ""⟩]) =
      history deskOperations ++ [⟨"Users", "Login", ""⟩] := List.flatMap_append
  rw [history_deskOperations] at hhistory
  have hnames : ∀ m ∈ history (deskOperations ++ [.record ⟨"Users", "Login", ""⟩]),
      m.Separable := by
    rw [hhistory]
    decide
  obtain ⟨hentries, hanswer⟩ := keeps_first_submissions _ hnames
  refine ⟨hnames, ?_, (hanswer deskOperations _ [] rfl).2 ?_⟩
  · rw [hentries, hhistory]
    rfl
  · rw [history_deskOperations]
    simp

end Audit

end GoScaffold
