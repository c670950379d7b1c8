import GoScaffold.FileTree
import Mathlib.Data.List.Basic

/-! What a write does to a tree. The file written holds the bytes, and every other file is as it
was; directories may be made on the way. -/

namespace GoScaffold.FileTree

theorem lookup_filter_ne {parts other : List String} (h : other ≠ parts)
    (entries : List (List String × Entry)) :
    (entries.filter fun e => e.1 != parts).lookup other = entries.lookup other := by
  induction entries with
  | nil => rfl
  | cons e entries ih =>
    obtain ⟨here, entry⟩ := e
    by_cases he : here = parts
    · have hne : (other == here) = false := beq_eq_false_iff_ne.2 (he ▸ h)
      simp [he, List.lookup_cons, he ▸ hne, ih]
    · simp [he, List.lookup_cons, ih]

theorem entry?_put {t : FileTree} {parts : List String} (entry : Entry) (h : parts ≠ [])
    (other : List String) :
    entry? (t.put parts entry) other = if other = parts then some entry else t.entry? other := by
  unfold entry? put
  by_cases ho : other = parts
  · simp [ho, h]
  · have hne : (other == parts) = false := beq_eq_false_iff_ne.2 ho
    simp [ho, List.lookup_cons, hne, lookup_filter_ne ho]

def SameFiles (t t' : FileTree) : Prop :=
  ∀ parts bytes, t'.entry? parts = some (.file bytes) ↔ t.entry? parts = some (.file bytes)

theorem sameFiles_put_directory {t : FileTree} {parts : List String} (h : t.entry? parts = none) :
    SameFiles t (t.put parts .directory) := by
  have hne : parts ≠ [] := fun hp => by simp [hp, entry?] at h
  intro other bytes
  rw [entry?_put _ hne]
  by_cases ho : other = parts
  · simp [ho, h]
  · rw [if_neg ho]

theorem sameFiles_makeWay {t t' : FileTree} {passed parts : List String}
    (h : t.makeWay passed parts = some t') : SameFiles t t' := by
  induction parts generalizing t passed with
  | nil =>
    rw [makeWay, Option.some.injEq] at h
    exact h ▸ fun _ _ => Iff.rfl
  | cons part parts ih =>
    rw [makeWay] at h
    cases he : t.entry? (passed ++ [part]) with
    | none =>
      simp only [he] at h
      intro other bytes
      rw [ih h other bytes]
      exact sameFiles_put_directory he other bytes
    | some entry =>
      cases entry with
      | directory =>
        simp only [he] at h
        exact ih h
      | file bytes =>
        simp only [he] at h
        cases h

theorem sameFiles_makeDirectory? {t t' : FileTree} {path : String}
    (h : t.makeDirectory? path = some t') : SameFiles t t' := by
  obtain ⟨parts, -, h⟩ := Option.bind_eq_some_iff.1 h
  exact sameFiles_makeWay h

theorem read?_eq_some_iff {t : FileTree} {path : String} {bytes : ByteArray} :
    t.read? path = some bytes ↔
      ∃ parts, Path.parts? path = some parts ∧ t.entry? parts = some (.file bytes) := by
  unfold read? find?
  cases hp : Path.parts? path with
  | none => simp
  | some parts =>
    rw [Option.bind_some]
    cases he : t.entry? parts with
    | none => simp [he]
    | some entry => cases entry <;> simp [he]

theorem writeFile?_eq_some {t t' : FileTree} {path : String} {bytes : ByteArray}
    (h : t.writeFile? path bytes = some t') :
    ∃ parts, Path.parts? path = some parts ∧ parts ≠ [] ∧ t' = t.put parts (.file bytes) := by
  obtain ⟨parts, hp, h⟩ := Option.bind_eq_some_iff.1 h
  refine ⟨parts, hp, ?_⟩
  cases he : t.entry? parts with
  | none =>
    simp only [he, Option.some.injEq] at h
    exact ⟨fun hn => by simp [hn, entry?] at he, h.symm⟩
  | some entry =>
    cases entry with
    | directory =>
      simp only [he] at h
      cases h
    | file old =>
      simp only [he, Option.some.injEq] at h
      exact ⟨fun hn => by simp [hn, entry?] at he, h.symm⟩

theorem writeIfChanged_of_read? {t : FileTree} {path : String} {bytes : ByteArray}
    (h : t.read? path = some bytes) : t.writeIfChanged path bytes = .ok (t, .unchanged) := by
  simp [writeIfChanged, h]

/-- A write puts the bytes where the path leads to, and leaves all other files as they were. -/
theorem writeIfChanged_spec {t t' : FileTree} {path : String} {bytes : ByteArray}
    {outcome : WriteOutcome}
    (h : t.writeIfChanged path bytes = .ok (t', outcome)) :
    ∃ parts, Path.parts? path = some parts ∧ t'.entry? parts = some (.file bytes) ∧
      ∀ other, other ≠ parts → ∀ old, t'.entry? other = some (.file old) ↔
        t.entry? other = some (.file old) := by
  unfold writeIfChanged at h
  split at h
  next hsame =>
    obtain ⟨rfl, -⟩ := Prod.mk.inj (Except.ok.inj h)
    obtain ⟨old, hread, hdata⟩ := (Option.any_eq_true _ _).1 hsame
    obtain ⟨parts, hp, he⟩ := read?_eq_some_iff.1 hread
    have hbytes : old = bytes := ByteArray.ext (by simpa using hdata)
    exact ⟨parts, hp, hbytes ▸ he, fun _ _ _ => Iff.rfl⟩
  next =>
    cases hd : t.makeDirectory? (Path.parent path) with
    | none => simp [hd] at h
    | some made =>
      simp only [hd] at h
      cases hw : made.writeFile? path bytes with
      | none => simp [hw] at h
      | some new =>
        simp only [hw] at h
        obtain ⟨rfl, -⟩ := Prod.mk.inj (Except.ok.inj h)
        obtain ⟨parts, hp, hne, rfl⟩ := writeFile?_eq_some hw
        refine ⟨parts, hp, by rw [entry?_put _ hne, if_pos rfl], fun other ho old => ?_⟩
        rw [entry?_put _ hne, if_neg ho]
        exact sameFiles_makeDirectory? hd other old

theorem read?_writeIfChanged {t t' : FileTree} {path : String} {bytes : ByteArray}
    {outcome : WriteOutcome}
    (h : t.writeIfChanged path bytes = .ok (t', outcome)) : t'.read? path = some bytes := by
  obtain ⟨parts, hp, he, -⟩ := writeIfChanged_spec h
  exact read?_eq_some_iff.2 ⟨parts, hp, he⟩

theorem read?_writeIfChanged_of_ne {t t' : FileTree} {path other : String} {bytes : ByteArray}
    {outcome : WriteOutcome} (h : t.writeIfChanged path bytes = .ok (t', outcome))
    (hne : Path.parts? other ≠ Path.parts? path) : t'.read? other = t.read? other := by
  obtain ⟨parts, hp, -, hframe⟩ := writeIfChanged_spec h
  refine Option.ext fun old => ?_
  rw [read?_eq_some_iff, read?_eq_some_iff]
  refine exists_congr fun place => and_congr_right fun hplace => hframe place ?_ old
  rintro rfl
  exact hne (hplace.trans hp.symm)

theorem exists_writeIfChanged {t made : FileTree} {path : String} {old : ByteArray}
    (bytes : ByteArray)
    (hread : t.read? path = some old) (hdir : t.makeDirectory? (Path.parent path) = some made) :
    ∃ t' outcome, t.writeIfChanged path bytes = .ok (t', outcome) := by
  obtain ⟨parts, hp, he⟩ := read?_eq_some_iff.1 hread
  have hmade : made.entry? parts = some (.file old) :=
    (sameFiles_makeDirectory? hdir parts old).2 he
  have hwrite : made.writeFile? path bytes = some (made.put parts (.file bytes)) := by
    simp [writeFile?, hp, hmade]
  unfold writeIfChanged
  split
  · exact ⟨t, .unchanged, rfl⟩
  · refine ⟨made.put parts (.file bytes), .written, ?_⟩
    simp only [hdir, hwrite]

end GoScaffold.FileTree
