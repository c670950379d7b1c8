import GoScaffold.Proofs.Region.Marker
import Mathlib.Data.List.Infix

/-! The two scans over lines, one that collects complete regions and one that replaces bodies. Lines
are taken apart into plain lines, complete regions and stray beginnings, and both scans get one
equation for each of these. -/

namespace GoScaffold.Region

/-- An end of the region comes before another region begins. -/
def Closes (q : String) (ls : List String) : Prop :=
  ∃ body e rest, ls = body ++ e :: rest ∧ (∀ l ∈ body, begins? l = none) ∧ ends? e = some q

/-- Lines that can stand inside a region: none begins a region or ends this one. -/
def IsBody (q : String) (ls : List String) : Prop := ∀ l ∈ ls, begins? l = none ∧ ends? l ≠ some q

theorem IsBody.tail {q l : String} {ls : List String} (h : IsBody q (l :: ls)) : IsBody q ls :=
  fun k hk => h k (List.mem_cons_of_mem _ hk)

theorem IsBody.cons {q l : String} {ls : List String} (hb : begins? l = none)
    (he : ends? l ≠ some q)
    (h : IsBody q ls) : IsBody q (l :: ls) := by
  intro k hk
  rcases List.mem_cons.1 hk with rfl | hk
  · exact ⟨hb, he⟩
  · exact h k hk

theorem closes_nil (q : String) : ¬ Closes q [] := by
  rintro ⟨body, e, rest, h, -⟩
  simp at h

theorem closes_cons {q l : String} {ls : List String} :
    Closes q (l :: ls) ↔ ends? l = some q ∨ (begins? l = none ∧ Closes q ls) := by
  constructor
  · rintro ⟨body, e, rest, h, hbody, he⟩
    cases body with
    | nil =>
      obtain ⟨rfl, rfl⟩ := List.cons.inj h
      exact .inl he
    | cons k body =>
      obtain ⟨rfl, rfl⟩ := List.cons.inj h
      exact .inr ⟨hbody l List.mem_cons_self, body, e, rest, rfl,
        fun k hk => hbody k (List.mem_cons_of_mem _ hk), he⟩
  · rintro (he | ⟨hl, body, e, rest, rfl, hbody, he⟩)
    · exact ⟨[], l, ls, rfl, fun k hk => absurd hk List.not_mem_nil, he⟩
    · exact ⟨l :: body, e, rest, rfl, List.forall_mem_cons.2 ⟨hl, hbody⟩, he⟩

instance decidableCloses (q : String) : (ls : List String) → Decidable (Closes q ls)
  | [] => isFalse (closes_nil q)
  | l :: ls =>
    have := decidableCloses q ls
    decidable_of_iff (ends? l = some q ∨ (begins? l = none ∧ Closes q ls)) closes_cons.symm

theorem Closes.exists_body {q : String} {ls : List String} (h : Closes q ls) :
    ∃ body e rest, ls = body ++ e :: rest ∧ IsBody q body ∧ ends? e = some q := by
  induction ls with
  | nil => exact absurd h (closes_nil q)
  | cons l ls ih =>
    by_cases he : ends? l = some q
    · exact ⟨[], l, ls, rfl, fun k hk => absurd hk List.not_mem_nil, he⟩
    · obtain ⟨hl, hls⟩ := (closes_cons.1 h).resolve_left he
      obtain ⟨body, e, rest, rfl, hbody, he'⟩ := ih hls
      exact ⟨l :: body, e, rest, rfl, hbody.cons hl he, he'⟩

/-- Where a region does not close, another begins before its end, or there is neither. -/
theorem exists_begins_of_not_closes {q : String} {ls : List String} (h : ¬ Closes q ls) :
    IsBody q ls ∨ ∃ body b p rest, ls = body ++ b :: rest ∧ IsBody q body ∧ begins? b = some p := by
  induction ls with
  | nil => exact .inl fun k hk => absurd hk List.not_mem_nil
  | cons l ls ih =>
    rw [closes_cons, not_or, not_and] at h
    cases hl : begins? l with
    | some p => exact .inr ⟨[], l, p, ls, rfl, fun k hk => absurd hk List.not_mem_nil, hl⟩
    | none =>
      rcases ih (h.2 hl) with hbody | ⟨body, b, p, rest, rfl, hbody, hb⟩
      · exact .inl (hbody.cons hl h.1)
      · exact .inr ⟨l :: body, b, p, rest, rfl, hbody.cons hl h.1, hb⟩

/-- Lines are empty, or begin with a plain line, a complete region or a beginning that is stray. -/
theorem region_induction {motive : List String → Prop} (nil : motive [])
    (plain : ∀ l ls, begins? l = none → motive ls → motive (l :: ls))
    (region : ∀ b q body e ls, begins? b = some q → IsBody q body → ends? e = some q → motive ls →
      motive (b :: (body ++ e :: ls)))
    (stray : ∀ b q ls, begins? b = some q → ¬ Closes q ls → motive ls → motive (b :: ls))
    (ls : List String) : motive ls := by
  -- on the number of lines, since behind a complete region the rest begins after its end
  induction hn : ls.length using Nat.strongRecOn generalizing ls with
  | ind n ih =>
    cases ls with
    | nil => exact nil
    | cons l ls =>
      rw [List.length_cons] at hn
      have hls : motive ls := ih ls.length (by omega) ls rfl
      cases hl : begins? l with
      | none => exact plain l ls hl hls
      | some q =>
        by_cases hc : Closes q ls
        · obtain ⟨body, e, rest, rfl, hbody, he⟩ := hc.exists_body
          rw [List.length_append, List.length_cons] at hn
          exact region l q body e rest hl hbody he (ih rest.length (by omega) rest rfl)
        · exact stray l q ls hl hc hls

/-! Collecting the complete regions. -/

@[simp] theorem complete_nil (opened : Option (String × List String)) :
    complete opened [] = [] := rfl

theorem complete_cons (opened : Option (String × List String)) (l : String) (ls : List String) :
    complete opened (l :: ls) =
      match begins? l with
      | some q => complete (some (q, [])) ls
      | none =>
        match opened with
        | none => complete none ls
        | some (q, body) =>
          if ends? l = some q then ⟨q, body.reverse⟩ :: complete none ls
          else complete (some (q, l :: body)) ls := rfl

theorem complete_plain {l : String} {ls : List String} (hl : begins? l = none) :
    complete none (l :: ls) = complete none ls := by
  rw [complete_cons, hl]

theorem complete_begin {b q : String} {ls : List String} {opened : Option (String × List String)}
    (hb : begins? b = some q) : complete opened (b :: ls) = complete (some (q, [])) ls := by
  rw [complete_cons, hb]

theorem complete_body {q : String} {body ls : List String} (acc : List String)
    (hbody : IsBody q body) :
    complete (some (q, acc)) (body ++ ls) = complete (some (q, body.reverse ++ acc)) ls := by
  induction body generalizing acc with
  | nil => rfl
  | cons l body ih =>
    obtain ⟨hb, he⟩ := hbody l List.mem_cons_self
    rw [List.cons_append, complete_cons, hb]
    simp only [if_neg he]
    rw [ih (l :: acc) hbody.tail, List.reverse_cons, List.append_assoc, List.singleton_append]

theorem complete_skip {body ls : List String} (hbody : ∀ l ∈ body, begins? l = none) :
    complete none (body ++ ls) = complete none ls := by
  induction body with
  | nil => rfl
  | cons l body ih =>
    rw [List.forall_mem_cons] at hbody
    rw [List.cons_append, complete_plain hbody.1, ih hbody.2]

theorem complete_region {b q e : String} {body ls : List String} (hb : begins? b = some q)
    (hbody : IsBody q body) (he : ends? e = some q) :
    complete none (b :: (body ++ e :: ls)) = ⟨q, body⟩ :: complete none ls := by
  rw [complete_begin hb, complete_body [] hbody, complete_cons, begins?_of_ends? he]
  simp only [he, if_pos, List.append_nil, List.reverse_reverse]

theorem complete_stray {b q : String} {ls : List String} (hb : begins? b = some q)
    (h : ¬ Closes q ls) :
    complete none (b :: ls) = complete none ls := by
  rw [complete_begin hb]
  -- up to the next beginning no line counts, whether the region is open or not
  rcases exists_begins_of_not_closes h with hbody | ⟨body, b', p, rest, rfl, hbody, hb'⟩
  · have hskip : complete none (ls ++ []) = complete none [] :=
      complete_skip fun l hl => (hbody l hl).1
    have hopen : complete (some (q, [])) (ls ++ []) = complete (some (q, ls.reverse ++ [])) [] :=
      complete_body [] hbody
    rw [List.append_nil] at hskip hopen
    rw [hskip, hopen]
    rfl
  · rw [complete_body [] hbody, complete_skip fun l hl => (hbody l hl).1, complete_begin hb',
      complete_begin hb']

theorem isBody_of_mem_complete {r : Region} {ls : List String} (hr : r ∈ complete none ls) :
    IsBody r.qualifier r.body := by
  induction ls using region_induction with
  | nil => simp at hr
  | plain l ls hl ih => exact ih (complete_plain hl ▸ hr)
  | region b q body e ls hb hbody he ih =>
    rw [complete_region hb hbody he, List.mem_cons] at hr
    rcases hr with rfl | hr
    · exact hbody
    · exact ih hr
  | stray b q ls hb h ih => exact ih (complete_stray hb h ▸ hr)

theorem mem_of_mem_complete {r : Region} {ls : List String} (hr : r ∈ complete none ls) {l : String}
    (hl : l ∈ r.body) : l ∈ ls := by
  induction ls using region_induction with
  | nil => simp at hr
  | plain k ls hk ih => exact List.mem_cons_of_mem _ (ih (complete_plain hk ▸ hr))
  | region b q body e ls hb hbody he ih =>
    rw [complete_region hb hbody he, List.mem_cons] at hr
    rcases hr with rfl | hr
    · exact List.mem_cons_of_mem _ (List.mem_append_left _ hl)
    · exact List.mem_cons_of_mem _ (List.mem_append_right _ (List.mem_cons_of_mem _ (ih hr)))
  | stray b q ls hb h ih => exact List.mem_cons_of_mem _ (ih (complete_stray hb h ▸ hr))

/-! Replacing the bodies. -/

section Step

variable (replacement : String → Option (List String)) (skipping : Option String)

/-- What replacing bodies leaves where a line stands: the line, and behind it the body put there. -/
def left (line : String) : List String :=
  match skipping with
  | some q => if ends? line = some q then [line] else []
  | none => line :: ((begins? line).bind replacement).getD []

def skipNext (line : String) : Option String :=
  match skipping with
  | some q => if ends? line = some q then none else some q
  | none => (begins? line).filter fun q => (replacement q).isSome

@[simp] theorem splice_nil : splice replacement skipping [] = [] := rfl

theorem splice_cons (line : String) (ls : List String) :
    splice replacement skipping (line :: ls) =
      left replacement skipping line ++ splice replacement
          (skipNext replacement skipping line) ls := by
  cases skipping with
  | some q =>
    by_cases he : ends? line = some q <;> simp [splice, left, skipNext, he]
  | none =>
    cases hb : begins? line with
    | none => simp [splice, left, skipNext, hb]
    | some q =>
      cases hq : replacement q <;> simp [splice, left, skipNext, Option.filter_some, hb, hq]

theorem splice_append (xs ys : List String) :
    splice replacement skipping (xs ++ ys) =
      splice replacement skipping xs ++ splice replacement
      (xs.foldl (skipNext replacement) skipping) ys := by
  induction xs generalizing skipping with
  | nil => rfl
  | cons x xs ih =>
    rw [List.cons_append, splice_cons, splice_cons, ih, List.foldl_cons, List.append_assoc]

end Step

section Splice

variable {replacement : String → Option (List String)} {skipping : Option String}

theorem splice_plain {l : String} {ls : List String} (hl : begins? l = none) :
    splice replacement none (l :: ls) = l :: splice replacement none ls := by
  simp [splice_cons, left, skipNext, hl]

theorem splice_keep {body ls : List String} (hbody : ∀ l ∈ body, begins? l = none) :
    splice replacement none (body ++ ls) = body ++ splice replacement none ls := by
  induction body with
  | nil => rfl
  | cons l body ih =>
    rw [List.forall_mem_cons] at hbody
    rw [List.cons_append, splice_plain hbody.1, ih hbody.2, List.cons_append]

theorem splice_pass {q : String} {body ls : List String} (hbody : ∀ l ∈ body, ends? l ≠ some q) :
    splice replacement (some q) (body ++ ls) = splice replacement (some q) ls := by
  induction body with
  | nil => rfl
  | cons l body ih =>
    rw [List.forall_mem_cons] at hbody
    rw [List.cons_append, splice_cons, left, skipNext, if_neg hbody.1, if_neg hbody.1,
      List.nil_append]
    exact ih hbody.2

theorem splice_end {q e : String} {ls : List String} (he : ends? e = some q) :
    splice replacement (some q) (e :: ls) = e :: splice replacement none ls := by
  simp [splice_cons, left, skipNext, he]

theorem splice_begin_none {b q : String} {ls : List String} (hb : begins? b = some q)
    (hq : replacement q = none) : splice replacement none (b :: ls) = b ::
    splice replacement none ls := by
  simp [splice_cons, left, skipNext, Option.filter_some, hb, hq]

theorem splice_begin_some {b q : String} {body ls : List String} (hb : begins? b = some q)
    (hq : replacement q = some body) :
    splice replacement none (b :: ls) = b :: (body ++ splice replacement (some q) ls) := by
  simp [splice_cons, left, skipNext, Option.filter_some, hb, hq]

theorem splice_region {b q e : String} {body ls : List String} (hb : begins? b = some q)
    (hbody : IsBody q body) (he : ends? e = some q) :
    splice replacement none (b :: (body ++ e :: ls)) =
      b :: ((replacement q).getD body ++ e :: splice replacement none ls) := by
  cases hq : replacement q with
  | none =>
    rw [splice_begin_none hb hq, splice_keep fun l hl => (hbody l hl).1,
      splice_plain (begins?_of_ends? he)]
    rfl
  | some kept =>
    rw [splice_begin_some hb hq, splice_pass fun l hl => (hbody l hl).2, splice_end he]
    rfl

theorem mem_left {line l : String} (h : l ∈ left replacement skipping line) :
    l = line ∨ ∃ q body, replacement q = some body ∧ l ∈ body := by
  unfold left at h
  split at h
  next q =>
    split at h
    · exact .inl (List.mem_singleton.1 h)
    · cases h
  next =>
    rcases List.mem_cons.1 h with h | h
    · exact .inl h
    · cases hb : (begins? line).bind replacement with
      | none => simp [hb] at h
      | some body =>
        obtain ⟨q, -, hq⟩ := Option.bind_eq_some_iff.1 hb
        exact .inr ⟨q, body, hq, by simpa [hb] using h⟩

theorem left_eq_of_begins? {line b q : String} {xs ys : List String}
    (hbody : ∀ q body, replacement q = some body → IsBody q body) (hb : begins? b = some q)
    (h : left replacement skipping line = xs ++ b :: ys) :
    skipping = none ∧ xs = [] ∧ line = b ∧ ys = (replacement q).getD [] := by
  have hmem : b ∈ left replacement skipping line := h ▸ List.mem_append_right _ List.mem_cons_self
  have hline : b = line := by
    refine (mem_left hmem).resolve_right ?_
    rintro ⟨p, body, hp, hin⟩
    rw [(hbody p body hp b hin).1] at hb
    cases hb
  subst hline
  unfold left at h
  split at h
  next p =>
    split at h
    next he => rw [begins?_of_ends? he] at hb; cases hb
    next => simp at h
  next =>
    rw [hb, Option.bind_some] at h
    cases xs with
    | nil => exact ⟨rfl, rfl, rfl, (List.cons.inj h).2.symm⟩
    | cons x xs =>
      -- the line would stand in the body behind it
      have hin : b ∈ (replacement q).getD [] :=
        (List.cons.inj h).2 ▸ List.mem_append_right _ List.mem_cons_self
      cases hq : replacement q with
      | none => simp [hq] at hin
      | some body =>
        rw [hq, Option.getD_some] at hin
        rw [(hbody q body hq b hin).1] at hb
        cases hb

end Splice

/-! Lines in which every region closes. -/

def AllClose (ls : List String) : Prop :=
  ∀ b rest q, b :: rest <:+ ls → begins? b = some q → Closes q rest

theorem allClose_cons {l : String} {ls : List String} :
    AllClose (l :: ls) ↔ (∀ q ∈ begins? l, Closes q ls) ∧ AllClose ls := by
  constructor
  · intro h
    exact ⟨fun q hq => h l ls q List.suffix_rfl hq,
      fun b rest q hs hb => h b rest q (hs.trans (List.suffix_cons l ls)) hb⟩
  · rintro ⟨hl, hls⟩ b rest q hs hb
    rcases List.suffix_cons_iff.1 hs with heq | hs
    · obtain ⟨rfl, rfl⟩ := List.cons.inj heq
      exact hl q hb
    · exact hls b rest q hs hb

theorem allClose_nil : AllClose [] := by
  intro b rest q hs
  exact absurd (List.suffix_nil.1 hs) (List.cons_ne_nil _ _)

instance decidableAllClose : (ls : List String) → Decidable (AllClose ls)
  | [] => isTrue allClose_nil
  | _ :: ls =>
    have := decidableAllClose ls
    decidable_of_iff _ allClose_cons.symm

theorem AllClose.of_append {xs ys : List String} (h : AllClose (xs ++ ys)) : AllClose ys :=
  fun b rest q hs hb => h b rest q (hs.trans (List.suffix_append xs ys)) hb

inductive Laid : List String → Prop where
  | nil : Laid []
  | plain {l : String} {ls : List String} : begins? l = none → Laid ls → Laid (l :: ls)
  | region {b q e : String} {body ls : List String} : begins? b = some q → IsBody q body →
      ends? e = some q → Laid ls → Laid (b :: (body ++ e :: ls))

theorem AllClose.laid {ls : List String} (h : AllClose ls) : Laid ls := by
  induction ls using region_induction with
  | nil => exact .nil
  | plain l ls hl ih => exact .plain hl (ih (allClose_cons.1 h).2)
  | region b q body e ls hb hbody he ih =>
    have htail := (allClose_cons.1 h).2.of_append
    exact .region hb hbody he (ih (allClose_cons.1 htail).2)
  | stray b q ls hb hstray ih => exact absurd ((allClose_cons.1 h).1 q hb) hstray

end GoScaffold.Region
