import GoScaffold.Audit
import GoScaffold.Proofs.FirstSight

/-! Recording missing methods. Entries are told apart by a key, in which the parts of an entry are
joined. The keys that an audit has seen stay in step with its entries; as long as the key tells the
entries at hand apart, the audit holds what was recorded, each entry once and in the order of first
sight. -/

namespace GoScaffold

namespace MissingMethod

theorem cut_unique {c : Char} {as bs xs ys : List Char} (ha : c ∉ as) (hb : c ∉ bs)
    (h : as ++ c :: xs = bs ++ c :: ys) : as = bs ∧ xs = ys := by
  induction as generalizing bs with
  | nil =>
    cases bs with
    | nil => exact ⟨rfl, (List.cons.inj h).2⟩
    | cons b bs => exact absurd ((List.cons.inj h).1 ▸ List.mem_cons_self) hb
  | cons a as ih =>
    cases bs with
    | nil => exact absurd ((List.cons.inj h).1 ▸ List.mem_cons_self) ha
    | cons b bs =>
      rw [List.mem_cons, not_or] at ha hb
      obtain ⟨hfirst, hrest⟩ := List.cons.inj h
      obtain ⟨has, hxs⟩ := ih ha.2 hb.2 hrest
      exact ⟨by rw [hfirst, has], hxs⟩

theorem toList_key (m : MissingMethod) :
    m.key.toList = m.service.toList ++ '.' :: (m.method.toList ++ '|' :: m.source.toList) := by
  simp [key]

theorem eq_of_key_eq {m n : MissingMethod} (hservice : m.service = n.service)
    (hm : '|' ∉ m.method.toList) (hn : '|' ∉ n.method.toList) (hkey : m.key = n.key) : m = n := by
  have hchars : m.key.toList = n.key.toList := congrArg String.toList hkey
  rw [toList_key, toList_key, hservice, List.append_cancel_left_eq, List.cons_inj_right] at hchars
  obtain ⟨hmethod, hsource⟩ := cut_unique hm hn hchars
  cases m
  cases n
  simp only [mk.injEq]
  exact ⟨hservice, String.toList_inj.1 hmethod, String.toList_inj.1 hsource⟩

def KeysTell (ms : List MissingMethod) : Prop := ∀ m ∈ ms, ∀ n ∈ ms, m.key = n.key → m = n

theorem KeysTell.mono {ms ns : List MissingMethod} (h : KeysTell ns) (hsub : ms ⊆ ns) :
    KeysTell ms :=
  fun m hm n hn => h m (hsub hm) n (hsub hn)

end MissingMethod

namespace Audit

open MissingMethod

variable {a : Audit} {m : MissingMethod} {ms : List MissingMethod}

/-- The keys that were seen are those of the entries. -/
def InStep (a : Audit) : Prop := ∀ key, key ∈ a.seen ↔ ∃ m ∈ a.entries, m.key = key

theorem inStep_empty : InStep {} := by simp [InStep]

/-- An entry is refused and changes nothing, or it is new and comes last. -/
theorem submit_cases (a : Audit) (m : MissingMethod) :
    (a.has m = true ∧ a.submit m = (false, a)) ∨
      (a.has m = false ∧ a.submit m = (true, ⟨a.entries ++ [m], m.key :: a.seen⟩)) := by
  cases h : a.has m with
  | true => exact .inl ⟨rfl, by simp [submit, h]⟩
  | false => exact .inr ⟨rfl, by simp [submit, h]⟩

theorem InStep.record (h : a.InStep) (m : MissingMethod) : (a.record m).InStep := by
  unfold Audit.record
  rcases submit_cases a m with ⟨-, hsubmit⟩ | ⟨-, hsubmit⟩
  · rwa [hsubmit]
  · rw [hsubmit]
    intro key
    simp only [List.mem_cons, h key, List.mem_append, List.not_mem_nil, or_false, or_and_right,
      exists_or, exists_eq_left]
    rw [or_comm, eq_comm]

theorem InStep.recordAll (h : a.InStep) (ms : List MissingMethod) : (a.recordAll ms).InStep := by
  induction ms generalizing a with
  | nil => exact h
  | cons m ms ih => exact ih (h.record m)

theorem has_iff_mem (hstep : a.InStep) (h : KeysTell (m :: a.entries)) :
    a.has m = true ↔ m ∈ a.entries := by
  rw [has, List.contains_iff_mem, hstep]
  constructor
  · rintro ⟨e, he, hkey⟩
    rwa [h m List.mem_cons_self e (List.mem_cons_of_mem _ he) hkey.symm]
  · intro hm
    exact ⟨m, hm, rfl⟩

theorem entries_record (hstep : a.InStep) (h : KeysTell (m :: a.entries)) :
    (a.record m).entries = if a.entries.contains m then a.entries else a.entries ++ [m] := by
  have hhas : a.has m = a.entries.contains m :=
    Bool.eq_iff_iff.2 ((has_iff_mem hstep h).trans List.contains_iff_mem.symm)
  rw [record]
  rcases submit_cases a m with ⟨hm, hsubmit⟩ | ⟨hm, hsubmit⟩
  · rw [hsubmit, ← hhas, if_pos hm]
  · rw [hsubmit, ← hhas, hm, if_neg Bool.false_ne_true]

theorem entries_recordAll_eq_foldl (hstep : a.InStep) (h : KeysTell (a.entries ++ ms)) :
    (a.recordAll ms).entries = ms.foldl (fun seen m =>
      if seen.contains m then seen else seen ++ [m]) a.entries := by
  induction ms generalizing a with
  | nil => rfl
  | cons m ms ih =>
    have hentries := entries_record (m := m) hstep
      (h.mono (List.cons_subset.2 ⟨by simp, List.subset_append_left _ _⟩))
    have hkept : (a.record m).entries ⊆ a.entries ++ [m] := by
      rw [hentries]
      split
      · exact List.subset_append_left _ _
      · exact fun _ h => h
    have htell : KeysTell ((a.record m).entries ++ ms) :=
      h.mono (List.append_subset.2 ⟨List.Subset.trans hkept (by simp), by simp⟩)
    rw [List.foldl_cons, ← hentries]
    exact ih (hstep.record m) htell

theorem entries_recordAll (h : KeysTell ms) : (recordAll {} ms).entries = ms.eraseDups :=
  (entries_recordAll_eq_foldl inStep_empty h).trans (foldl_unless_contains_nil ms)

end Audit

end GoScaffold
