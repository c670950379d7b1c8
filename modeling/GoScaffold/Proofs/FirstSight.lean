import Mathlib.Data.List.Nodup

/-! Lists in order of first sight. What is put behind a list unless it is there already stands in it
once, at the place where it was seen first. -/

namespace GoScaffold

variable {α : Type} [BEq α]

theorem eraseDups_induction {motive : List α → Prop} (nil : motive [])
    (cons : ∀ a l, motive (l.filter fun b => !b == a) → motive (a :: l)) (l : List α) :
    motive l := by
  induction hlen : l.length using Nat.strongRecOn generalizing l with
  | ind n ih =>
    cases l with
    | nil => exact nil
    | cons a l =>
      have hshorter : (l.filter fun b => !b == a).length < n := by
        rw [← hlen, List.length_cons]
        exact Nat.lt_succ_of_le (List.length_filter_le _ _)
      exact cons a l (ih _ hshorter _ rfl)

variable [LawfulBEq α]

theorem nodup_eraseDups (l : List α) : l.eraseDups.Nodup := by
  induction l using eraseDups_induction with
  | nil => exact List.nodup_nil
  | cons a l ih =>
    rw [List.eraseDups_cons, List.nodup_cons]
    exact ⟨by simp, ih⟩

theorem eraseDups_filter (p : α → Bool) (l : List α) :
    (l.filter p).eraseDups = l.eraseDups.filter p := by
  induction l using eraseDups_induction with
  | nil => rfl
  | cons a l ih =>
    rw [List.eraseDups_cons]
    by_cases ha : p a = true
    · rw [List.filter_cons_of_pos ha, List.filter_cons_of_pos ha, List.eraseDups_cons, ← ih,
        List.filter_filter, List.filter_filter]
      simp only [Bool.and_comm]
    · have hrest : l.filter p = (l.filter fun b => !b == a).filter p := by
        rw [List.filter_filter]
        refine List.filter_congr fun b _ => ?_
        by_cases hb : b = a
        · simp [hb, ha]
        · simp [hb]
      rw [List.filter_cons_of_neg ha, List.filter_cons_of_neg ha, hrest, ih]

theorem eraseDups_append_filter (l r : List α) :
    (l ++ r).eraseDups = l.eraseDups ++ r.eraseDups.filter fun a => !l.eraseDups.contains a := by
  have hsame : (fun a => !l.eraseDups.contains a) = fun a => !l.contains a := by
    funext a
    simp
  rw [List.eraseDups_append, List.removeAll, eraseDups_filter, hsame]

theorem foldl_unless_contains (seen l : List α) :
    l.foldl (fun seen a => if seen.contains a then seen else seen ++ [a]) seen =
      seen ++ (l.filter fun a => !seen.contains a).eraseDups := by
  induction l generalizing seen with
  | nil => simp
  | cons a l ih =>
    rw [List.foldl_cons, ih]
    by_cases ha : seen.contains a = true
    · rw [if_pos ha, List.filter_cons_of_neg (by simpa using ha)]
    · have hrest : (l.filter fun b => !(seen ++ [a]).contains b) =
          (l.filter fun b => !seen.contains b).filter fun b => !b == a := by
        rw [List.filter_filter]
        refine List.filter_congr fun b _ => Bool.eq_iff_iff.2 ?_
        simp [and_comm]
      rw [if_neg ha, List.filter_cons_of_pos (by simpa using ha), List.eraseDups_cons, hrest,
        List.append_assoc, List.singleton_append]

theorem foldl_unless_contains_nil (l : List α) :
    l.foldl (fun seen a => if seen.contains a then seen else seen ++ [a]) [] = l.eraseDups := by
  rw [foldl_unless_contains]
  simp

end GoScaffold
