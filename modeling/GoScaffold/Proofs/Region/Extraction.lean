import GoScaffold.Proofs.Region.Merge

/-! Which regions are found. A region stands between a line that begins it and the first line behind
that ends it, provided that no region begins in between. Collecting the bodies of a text finds
exactly these, and of several with one qualifier the one that begins first. -/

namespace GoScaffold.Region

/-- The lines with the numbers `i` and `j` enclose a region: the first begins it, the second ends
it, and no line between them begins a region or ends this one. -/
structure Spans (ls : List String) (q : String) (i j : Nat) : Prop where
  lt : i < j
  begins : ∃ b, ls[i]? = some b ∧ begins? b = some q
  ends : ∃ e, ls[j]? = some e ∧ ends? e = some q
  inside : ∀ k l, i < k → k < j → ls[k]? = some l → begins? l = none ∧ ends? l ≠ some q

def between (ls : List String) (i j : Nat) : List String := (ls.take j).drop (i + 1)

variable {ls xs body : List String} {q : String} {i j : Nat}

theorem Spans.end_unique {j' : Nat} (h : Spans ls q i j) (h' : Spans ls q i j') : j = j' := by
  obtain ⟨e, hj, he⟩ := h.ends
  obtain ⟨e', hj', he'⟩ := h'.ends
  rcases Nat.lt_trichotomy j j' with hlt | heq | hgt
  · exact absurd he (h'.inside j e h.lt hlt hj).2
  · exact heq
  · exact absurd he' (h.inside j' e' h'.lt hgt hj').2

theorem spans_append_iff (xs : List String) :
    Spans (xs ++ ls) q (xs.length + i) (xs.length + j) ↔ Spans ls q i j := by
  have hget : ∀ k, (xs ++ ls)[xs.length + k]? = ls[k]? := fun k => by
    rw [List.getElem?_append_right (Nat.le_add_right _ _), Nat.add_sub_cancel_left]
  constructor
  · rintro ⟨hlt, hbegins, hends, hinside⟩
    rw [hget] at hbegins hends
    refine ⟨by omega, hbegins, hends, fun k l hik hkj hk => ?_⟩
    exact hinside (xs.length + k) l (by omega) (by omega) ((hget k).trans hk)
  · rintro ⟨hlt, hbegins, hends, hinside⟩
    refine ⟨by omega, by rwa [hget], by rwa [hget], fun k l hik hkj hk => ?_⟩
    obtain ⟨k, rfl⟩ : ∃ k', k = xs.length + k' := ⟨k - xs.length, by omega⟩
    exact hinside k l (by omega) (by omega) ((hget k).symm.trans hk)

theorem between_append (xs : List String) :
    between (xs ++ ls) (xs.length + i) (xs.length + j) = between ls i j := by
  rw [between, List.take_length_add_append, Nat.add_assoc, List.drop_length_add_append, between]

theorem spans_region {b e : String} (hb : begins? b = some q) (hbody : IsBody q body)
    (he : ends? e = some q) : Spans (b :: (body ++ e :: ls)) q 0 (body.length + 1) where
  lt := Nat.succ_pos _
  begins := ⟨b, rfl, hb⟩
  ends := ⟨e, by simp, he⟩
  inside := by
    intro k l hk hlt hget
    obtain ⟨k, rfl⟩ : ∃ k', k = k' + 1 := ⟨k - 1, by omega⟩
    rw [List.getElem?_cons_succ, List.getElem?_append_left (by omega)] at hget
    exact hbody l (List.mem_of_getElem? hget)

theorem Spans.closes {b : String} (h : Spans (b :: ls) q 0 j) : Closes q ls := by
  obtain ⟨e, hj, he⟩ := h.ends
  obtain ⟨j, rfl⟩ : ∃ j', j = j' + 1 := ⟨j - 1, by have := h.lt; omega⟩
  rw [List.getElem?_cons_succ] at hj
  obtain ⟨hlt, rfl⟩ := List.getElem?_eq_some_iff.1 hj
  refine ⟨ls.take j, ls[j], ls.drop (j + 1), ?_, fun l hl => ?_, he⟩
  · rw [← List.drop_eq_getElem_cons, List.take_append_drop]
  · obtain ⟨k, hk, rfl⟩ := List.mem_take_iff_getElem.1 hl
    exact (h.inside (k + 1) _ (by omega) (by omega) (by simp)).1

theorem not_spans_of_lt (hxs : ∀ l ∈ xs, begins? l ≠ some q) (hi : i < xs.length) :
    ¬ Spans (xs ++ ls) q i j := by
  intro h
  obtain ⟨b, hget, hb⟩ := h.begins
  rw [List.getElem?_append_left hi] at hget
  exact hxs b (List.mem_of_getElem? hget) hb

def IsFirst (ls : List String) (q : String) (body : List String) : Prop :=
  ∃ i j, Spans ls q i j ∧ body = between ls i j ∧ ∀ i' j', Spans ls q i' j' → i ≤ i'

theorem isFirst_append_iff (xs : List String)
    (hxs : ∀ i j, i < xs.length → ¬ Spans (xs ++ ls) q i j) :
    IsFirst (xs ++ ls) q body ↔ IsFirst ls q body := by
  have hshift : ∀ {i j}, Spans (xs ++ ls) q i j → ∃ i' j', i = xs.length + i' ∧
      j = xs.length + j' := by
    intro i j h
    have hi : xs.length ≤ i := Nat.le_of_not_lt fun hi => hxs i j hi h
    exact ⟨i - xs.length, j - xs.length, by omega, by have := h.lt; omega⟩
  constructor
  · rintro ⟨i, j, h, rfl, hleast⟩
    obtain ⟨i, j, rfl, rfl⟩ := hshift h
    refine ⟨i, j, (spans_append_iff xs).1 h, between_append xs, fun i' j' h' => ?_⟩
    have := hleast _ _ ((spans_append_iff xs).2 h')
    omega
  · rintro ⟨i, j, h, rfl, hleast⟩
    refine ⟨_, _, (spans_append_iff xs).2 h, (between_append xs).symm, fun i' j' h' => ?_⟩
    obtain ⟨i', j', rfl, rfl⟩ := hshift h'
    have := hleast i' j' ((spans_append_iff xs).1 h')
    omega

theorem isFirst_region_iff {b e : String} {inner : List String} (hb : begins? b = some q)
    (hinner : IsBody q inner) (he : ends? e = some q) :
    IsFirst (b :: (inner ++ e :: ls)) q body ↔ body = inner := by
  have hspans : Spans (b :: (inner ++ e :: ls)) q 0 (inner.length + 1) := spans_region hb hinner he
  have hbetween : between (b :: (inner ++ e :: ls)) 0 (inner.length + 1) = inner := by
    simp [between]
  constructor
  · rintro ⟨i, j, h, rfl, hleast⟩
    obtain rfl : i = 0 := Nat.le_zero.1 (hleast _ _ hspans)
    rw [h.end_unique hspans, hbetween]
  · rintro rfl
    exact ⟨0, _, hspans, hbetween.symm, fun _ _ _ => Nat.zero_le _⟩

theorem find?_complete_iff (ls : List String) (q : String) (body : List String) :
    ((complete none ls).find? fun r => r.qualifier = q).map Region.body = some body ↔
      IsFirst ls q body := by
  induction ls using region_induction with
  | nil =>
    constructor
    · intro h
      simp at h
    · rintro ⟨i, j, h, -⟩
      obtain ⟨b, hget, -⟩ := h.begins
      simp at hget
  | plain l ls hl ih =>
    rw [complete_plain hl, ih]
    refine (isFirst_append_iff [l] fun i j hi => not_spans_of_lt ?_ hi).symm
    simp [hl]
  | region b p inner e ls hb hinner he ih =>
    rw [complete_region hb hinner he]
    by_cases hp : p = q
    · subst hp
      rw [isFirst_region_iff hb hinner he, List.find?_cons_of_pos (by simp)]
      simp [eq_comm]
    · -- a region of another qualifier holds no beginning of this one, so it is passed over
      have hxs : ∀ l ∈ b :: (inner ++ [e]), begins? l ≠ some q := by
        intro l hl
        simp only [List.mem_cons, List.mem_append, List.not_mem_nil, or_false] at hl
        rcases hl with rfl | hl | rfl
        · simpa [hb] using hp
        · simp [(hinner l hl).1]
        · simp [begins?_of_ends? he]
      have happend : b :: (inner ++ e :: ls) = (b :: (inner ++ [e])) ++ ls := by simp
      rw [List.find?_cons_of_neg (by simpa using hp), ih, happend]
      exact (isFirst_append_iff _ fun i j hi => not_spans_of_lt hxs hi).symm
  | stray b p ls hb hstray ih =>
    rw [complete_stray hb hstray, ih]
    refine (isFirst_append_iff [b] fun i j hi h => ?_).symm
    obtain rfl : i = 0 := by simpa using hi
    obtain ⟨b', hget, hb'⟩ := h.begins
    obtain rfl : b = b' := by simpa using hget
    obtain rfl : p = q := Option.some.inj (hb.symm.trans hb')
    exact hstray h.closes

/-- The bodies of a text are those of its complete regions, the first one for each qualifier. -/
theorem extract_maps_iff (text q : String) (body : List String) :
    (extract text).get? q = some body ↔
      ∃ i j, Spans (Text.lines text) q i j ∧ body = between (Text.lines text) i j ∧
        ∀ i' j', Spans (Text.lines text) q i' j' → i ≤ i' := by
  rw [extract, get?_bodies]
  exact find?_complete_iff (Text.lines text) q body

end GoScaffold.Region
