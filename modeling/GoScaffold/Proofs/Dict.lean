import GoScaffold.Dict
import Mathlib.Data.List.Basic
import Mathlib.Data.String.Basic

/-! Dictionaries after an insertion, and with their values mapped. However a dictionary is filled,
its keys are in ascending order. -/

namespace GoScaffold.Dict

variable {α β : Type}

theorem get?_cons (k q : String) (v : α) (d : Dict α) :
    get? ((k, v) :: d) q = if q = k then some v else d.get? q := by
  by_cases h : q = k
  · simp [get?, h]
  · have hne : (q == k) = false := beq_eq_false_iff_ne.2 h
    simp [get?, List.lookup_cons, hne, h]

theorem get?_insert (key q : String) (value : α) (d : Dict α) :
    (insert key value d).get? q = if q = key then some value else d.get? q := by
  induction d with
  | nil => rw [insert, get?_cons]
  | cons entry d ih =>
    obtain ⟨k, v⟩ := entry
    rw [insert]
    split
    next h =>
      subst h
      rw [get?_cons, get?_cons]
      split <;> rfl
    next h =>
      split
      · rw [get?_cons]
      · rw [get?_cons, get?_cons, ih]
        by_cases hk : q = k
        · have hq : q ≠ key := fun hq => h (hq.symm.trans hk)
          rw [if_pos hk, if_neg hq, if_pos hk]
        · rw [if_neg hk, if_neg hk]

theorem mem_insert_self {key : String} {value : α} {d : Dict α} :
    (key, value) ∈ insert key value d := by
  induction d with
  | nil => exact List.mem_singleton_self _
  | cons entry d ih =>
    rw [insert]
    split
    · exact List.mem_cons_self
    · split
      · exact List.mem_cons_self
      · exact List.mem_cons_of_mem _ ih

theorem eq_or_mem_of_mem_insert {key : String} {value : α} {d : Dict α} {entry : String × α}
    (h : entry ∈ insert key value d) : entry = (key, value) ∨ entry ∈ d := by
  induction d with
  | nil => exact .inl (List.mem_singleton.1 h)
  | cons first d ih =>
    rw [insert] at h
    split at h
    · exact (List.mem_cons.1 h).imp_right (List.mem_cons_of_mem _)
    · split at h
      · exact List.mem_cons.1 h
      · rcases List.mem_cons.1 h with rfl | h
        · exact .inr List.mem_cons_self
        · exact (ih h).imp_right (List.mem_cons_of_mem _)

theorem mem_insert_of_ne {key k : String} {value v : α} {d : Dict α} (hne : k ≠ key)
    (h : (k, v) ∈ d) : (k, v) ∈ insert key value d := by
  induction d with
  | nil => exact absurd h List.not_mem_nil
  | cons first d ih =>
    rw [insert]
    split
    next heq =>
      rcases List.mem_cons.1 h with rfl | h
      · exact absurd heq.symm hne
      · exact List.mem_cons_of_mem _ h
    next =>
      split
      · exact List.mem_cons_of_mem _ h
      · rcases List.mem_cons.1 h with rfl | h
        · exact List.mem_cons_self
        · exact List.mem_cons_of_mem _ (ih h)

theorem mem_keys_insert {key q : String} {value : α} {d : Dict α} :
    q ∈ (insert key value d).keys ↔ q = key ∨ q ∈ d.keys := by
  constructor
  · intro hq
    obtain ⟨e, he, rfl⟩ := List.mem_map.1 hq
    rcases eq_or_mem_of_mem_insert he with rfl | he
    · exact .inl rfl
    · exact .inr (List.mem_map_of_mem he)
  · intro hq
    by_cases hsame : q = key
    · rw [hsame]
      exact List.mem_map_of_mem (f := Prod.fst) mem_insert_self
    · obtain ⟨e, he, rfl⟩ := List.mem_map.1 (hq.resolve_left hsame)
      exact List.mem_map_of_mem (f := Prod.fst) (mem_insert_of_ne hsame he)

def mapValues (f : String → α → β) (d : Dict α) : Dict β :=
  d.map fun entry => (entry.1, f entry.1 entry.2)

theorem mapValues_insert (f : String → α → β) (key : String) (value : α) (d : Dict α) :
    (insert key value d).mapValues f = insert key (f key value) (d.mapValues f) := by
  induction d with
  | nil => rfl
  | cons entry d ih =>
    obtain ⟨k, v⟩ := entry
    unfold mapValues at ih ⊢
    by_cases h : key = k
    · simp [insert, h]
    · by_cases hlt : key < k
      · simp [insert, h, hlt]
      · simp [insert, h, hlt, ih]

theorem get?_mapValues (f : String → α → β) (d : Dict α) (q : String) :
    (d.mapValues f).get? q = (d.get? q).map (f q) := by
  induction d with
  | nil => rfl
  | cons entry d ih =>
    obtain ⟨k, v⟩ := entry
    change get? ((k, f k v) :: mapValues f d) q = _
    rw [get?_cons, get?_cons, ih]
    by_cases h : q = k
    · rw [if_pos h, if_pos h, h, Option.map_some]
    · rw [if_neg h, if_neg h]

theorem keys_mapValues (f : String → α → β) (d : Dict α) : (d.mapValues f).keys = d.keys := by
  simp [keys, mapValues]

theorem contains_mapValues (f : String → α → β) (d : Dict α) (q : String) :
    (d.mapValues f).contains q = d.contains q := by
  rw [contains, contains, get?_mapValues, Option.isSome_map]

theorem get?_update (d : Dict α) (key q : String) (f : α → α) :
    (d.update key f).get? q = if q = key then (d.get? key).map f else d.get? q := by
  unfold update
  cases hkey : d.get? key with
  | none =>
    by_cases hq : q = key
    · rw [if_pos hq, hq, hkey, Option.map_none]
    · rw [if_neg hq]
  | some value => rw [get?_insert, Option.map_some]

theorem contains_update (d : Dict α) (key q : String) (f : α → α) :
    (d.update key f).contains q = d.contains q := by
  rw [contains, contains, get?_update]
  by_cases hq : q = key
  · rw [if_pos hq, hq, Option.isSome_map]
  · rw [if_neg hq]

/-! The order of keys. -/

def Sorted (d : Dict α) : Prop := d.keys.Pairwise (· < ·)

theorem Sorted.insert {d : Dict α} (h : d.Sorted) (key : String) (value : α) :
    (insert key value d).Sorted := by
  induction d with
  | nil => exact List.pairwise_singleton _ _
  | cons entry d ih =>
    obtain ⟨k, v⟩ := entry
    obtain ⟨hfirst, hrest⟩ := List.pairwise_cons.1 h
    rw [Dict.insert]
    split_ifs with heq hlt
    · subst heq
      exact h
    · refine List.pairwise_cons.2 ⟨fun q hq => ?_, h⟩
      rcases List.mem_cons.1 hq with rfl | hq
      · exact hlt
      · exact hlt.trans (hfirst q hq)
    · refine List.pairwise_cons.2 ⟨fun q hq => ?_, ih hrest⟩
      rcases mem_keys_insert.1 hq with rfl | hq
      · exact lt_of_le_of_ne (not_lt.1 hlt) (Ne.symm heq)
      · exact hfirst q hq

theorem Sorted.update {d : Dict α} (h : d.Sorted) (key : String) (f : α → α) :
    (d.update key f).Sorted := by
  unfold Dict.update
  split
  · exact h.insert key _
  · exact h

theorem sorted_ofEntries (entries : List (String × α)) : (ofEntries entries).Sorted :=
  List.foldlRecOn entries _ List.Pairwise.nil fun _ h entry _ => h.insert entry.1 entry.2

theorem Sorted.sublist {d e : Dict α} (h : d.Sorted) (hsub : e.Sublist d) : e.Sorted :=
  List.Pairwise.sublist (hsub.map Prod.fst) h

theorem Sorted.mem_iff {d : Dict α} (h : d.Sorted) {key : String} {value : α} :
    (key, value) ∈ d ↔ d.get? key = some value := by
  induction d with
  | nil => simp [get?]
  | cons entry d ih =>
    obtain ⟨k, v⟩ := entry
    obtain ⟨hfirst, hrest⟩ := List.pairwise_cons.1 h
    rw [List.mem_cons, get?_cons, ih hrest]
    by_cases hk : key = k
    · subst hk
      have hnot : get? d key ≠ some value := fun hget =>
        lt_irrefl key (hfirst key (List.mem_map_of_mem (f := Prod.fst) ((ih hrest).2 hget)))
      rw [if_pos rfl, or_iff_left hnot, Prod.mk.injEq, Option.some.injEq]
      exact (and_iff_right rfl).trans eq_comm
    · simp [hk]

theorem mem_keys_iff {d : Dict α} {q : String} : q ∈ d.keys ↔ ∃ value, d.get? q = some value := by
  induction d with
  | nil => simp [keys, get?]
  | cons entry d ih =>
    obtain ⟨k, v⟩ := entry
    rw [get?_cons]
    refine List.mem_cons.trans ?_
    by_cases hk : q = k
    · simp [hk]
    · rw [if_neg hk]
      exact (or_iff_right hk).trans ih

theorem contains_iff {d : Dict α} {q : String} : d.contains q = true ↔ ∃ v, d.get? q = some v :=
  Option.isSome_iff_exists

end GoScaffold.Dict
