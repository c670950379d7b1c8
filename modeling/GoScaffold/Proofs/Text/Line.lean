import GoScaffold.Text.Line
import GoScaffold.Text.Substring
import Mathlib.Data.List.Basic

/-! Lines and texts. A text is cut at its line feeds, so what holds of all texts is shown for a text
without one and for a line put before a text. Texts put together from lines give the lines back,
as long as no line ends in a carriage return. -/

namespace GoScaffold.Text

theorem splitChars_eq_splitOn (sep : Char) (cs : List Char) :
    splitChars sep cs = cs.splitOn sep := by
  induction cs with
  | nil => rfl
  | cons c cs ih =>
    rw [List.splitOn_cons_eq_if_modifyHead, splitChars, ih]
    by_cases hc : c = sep
    · simp [hc]
    · cases hs : cs.splitOn sep with
      | nil => exact absurd hs (List.splitOn_ne_nil sep cs)
      | cons w ws => simp [hc]

theorem lines_ofList (cs : List Char) : lines (String.ofList cs) =
    (lineChars cs).map String.ofList := by
  rw [lines, String.toList_ofList]

theorem lineChars_line {l : List Char} (cs : List Char) (h : '\n' ∉ l) :
    lineChars (l ++ '\n' :: cs) = dropReturn l :: lineChars cs := by
  unfold lineChars
  rw [splitChars_eq_splitOn, splitChars_eq_splitOn, List.splitOn_append_cons_self_of_not_mem h]
  obtain ⟨ended, last, hs⟩ : ∃ ended last, cs.splitOn '\n' = ended ++ [last] :=
    ⟨_, _, (List.dropLast_concat_getLast (List.splitOn_ne_nil '\n' cs)).symm⟩
  simp [hs]

theorem lineChars_last {l : List Char} (h : '\n' ∉ l) :
    lineChars l = if l.isEmpty then [] else [l] := by
  unfold lineChars
  rw [splitChars_eq_splitOn, List.splitOn_eq_singleton h]
  simp

theorem line_induction {motive : List Char → Prop} (last : ∀ l, '\n' ∉ l → motive l)
    (line : ∀ l cs, '\n' ∉ l → motive cs → motive (l ++ '\n' :: cs)) (cs : List Char) :
    motive cs := by
  induction hn : cs.length using Nat.strongRecOn generalizing cs with
  | ind n ih =>
    by_cases h : '\n' ∈ cs
    · obtain ⟨l, rest, rfl, hl⟩ := List.eq_append_cons_of_mem h
      refine line l rest hl (ih rest.length ?_ rest rfl)
      simp only [List.length_append, List.length_cons] at hn
      omega
    · exact last cs h

theorem mem_of_mem_dropReturn {c : Char} {l : List Char} (h : c ∈ dropReturn l) : c ∈ l := by
  unfold dropReturn at h
  split at h
  · exact (List.dropLast_sublist l).subset h
  · exact h

theorem dropReturn_eq_self {l : List Char} (h : l.getLast? ≠ some '\r') :
    dropReturn l = l := if_neg h

theorem dropReturn_of_not_mem {l : List Char} (h : '\r' ∉ l) : dropReturn l = l :=
  dropReturn_eq_self fun hl => h (List.mem_of_getLast? hl)

def withoutReturn (l : String) : String := String.ofList (dropReturn l.toList)

theorem mem_of_mem_lineChars {c : Char} {cs l : List Char} (hl : l ∈ lineChars cs) (hc : c ∈ l) :
    c ∈ cs := by
  induction cs using line_induction with
  | last k hk =>
    rw [lineChars_last hk] at hl
    split at hl
    · simp at hl
    · rw [List.mem_singleton] at hl
      exact hl ▸ hc
  | line k cs hk ih =>
    rw [lineChars_line cs hk, List.mem_cons] at hl
    rcases hl with rfl | hl
    · exact List.mem_append_left _ (mem_of_mem_dropReturn hc)
    · exact List.mem_append_right _ (List.mem_cons_of_mem _ (ih hl))

theorem newline_not_mem_lineChars {cs l : List Char} (hl : l ∈ lineChars cs) : '\n' ∉ l := by
  induction cs using line_induction with
  | last k hk =>
    rw [lineChars_last hk] at hl
    split at hl
    · simp at hl
    · rw [List.mem_singleton] at hl
      exact hl ▸ hk
  | line k cs hk ih =>
    rw [lineChars_line cs hk, List.mem_cons] at hl
    rcases hl with rfl | hl
    · exact fun h => hk (mem_of_mem_dropReturn h)
    · exact ih hl

theorem newline_not_mem_lines {s l : String} (hl : l ∈ lines s) : '\n' ∉ l.toList := by
  obtain ⟨cs, hcs, rfl⟩ := List.mem_map.1 hl
  rw [String.toList_ofList]
  exact newline_not_mem_lineChars hcs

theorem not_mem_lines {c : Char} {s l : String} (h : c ∉ s.toList) (hl : l ∈ lines s) :
    c ∉ l.toList := by
  obtain ⟨cs, hcs, rfl⟩ := List.mem_map.1 hl
  rw [String.toList_ofList]
  exact fun hc => h (mem_of_mem_lineChars hcs hc)

/-- The text of lines put one under the other, with or without a line feed at the end. -/
def ofLines (ended : Bool) (ls : List String) : String :=
  if ended then join "\n" ls ++ "\n" else join "\n" ls

theorem toList_ofLines_singleton (ended : Bool) (l : String) :
    (ofLines ended [l]).toList = l.toList ++ if ended then ['\n'] else [] := by
  cases ended <;> simp [ofLines, join]

theorem toList_ofLines_cons (ended : Bool) (l : String) {ls : List String} (h : ls ≠ []) :
    (ofLines ended (l :: ls)).toList = l.toList ++ '\n' :: (ofLines ended ls).toList := by
  obtain ⟨k, ks, rfl⟩ := List.exists_cons_of_ne_nil h
  cases ended <;> simp [ofLines, join]

theorem lines_ofLines_singleton {ended : Bool} {l : String} (h : '\n' ∉ l.toList) :
    lines (ofLines ended [l]) = if ended then [withoutReturn l] else if l = "" then []
    else [l] := by
  unfold lines
  rw [toList_ofLines_singleton]
  cases ended
  · rw [if_neg Bool.false_ne_true, List.append_nil, lineChars_last h]
    by_cases hl : l = ""
    · simp [hl]
    · simp [hl, String.ofList_toList]
  · rw [if_pos rfl, lineChars_line [] h]
    simp [lineChars_last, withoutReturn]

theorem lines_ofLines_append {ended : Bool} {xs ys : List String} (hy : ys ≠ [])
    (hx : ∀ x ∈ xs, '\n' ∉ x.toList) :
    lines (ofLines ended (xs ++ ys)) = xs.map withoutReturn ++ lines (ofLines ended ys) := by
  induction xs with
  | nil => rfl
  | cons x xs ih =>
    have hne : xs ++ ys ≠ [] := List.append_ne_nil_of_right_ne_nil _ hy
    have ih' := ih fun z hz => hx z (List.mem_cons_of_mem _ hz)
    unfold lines at ih' ⊢
    rw [List.cons_append, toList_ofLines_cons ended x hne,
      lineChars_line _ (hx x List.mem_cons_self), List.map_cons, ih']
    rfl

theorem withoutReturn_of_not_mem {l : String} (h : '\r' ∉ l.toList) : withoutReturn l = l := by
  rw [withoutReturn, dropReturn_of_not_mem h, String.ofList_toList]

theorem map_withoutReturn {ls : List String} (h : ∀ l ∈ ls, '\r' ∉ l.toList) :
    ls.map withoutReturn = ls :=
  (List.map_congr_left fun l hl => withoutReturn_of_not_mem (h l hl)).trans (List.map_id ls)

/-- Lines without carriage returns come back from their text. A last line that is empty needs its
end to be seen. -/
theorem lines_ofLines {ended : Bool} {ls : List String} (hn : ∀ l ∈ ls, '\n' ∉ l.toList)
    (hr : ∀ l ∈ ls, '\r' ∉ l.toList) (hne : ls ≠ [])
    (hlast : ended = false → ls.getLast? ≠ some "") :
    lines (ofLines ended ls) = ls := by
  obtain ⟨xs, y, rfl⟩ : ∃ xs y, ls = xs ++ [y] := ⟨_, _, (List.dropLast_concat_getLast hne).symm⟩
  have hy : y ∈ xs ++ [y] := List.mem_append_right _ List.mem_cons_self
  have hx : ∀ x ∈ xs, x ∈ xs ++ [y] := fun x hx => List.mem_append_left _ hx
  rw [lines_ofLines_append (List.cons_ne_nil _ _) fun x h => hn x (hx x h),
    map_withoutReturn fun x h => hr x (hx x h), lines_ofLines_singleton (hn y hy),
    withoutReturn_of_not_mem (hr y hy)]
  cases ended with
  | true => rfl
  | false =>
    have hne : y ≠ "" := fun h => hlast rfl (by simp [h])
    simp [hne]

/-- A line that is not empty is found again behind those before it. Only the last line, where no
line feed ends it, keeps its carriage return. -/
theorem lines_ofLines_cut (ended : Bool) {xs ys : List String} {y : String}
    (hn : ∀ l ∈ xs ++ y :: ys, '\n' ∉ l.toList) (hy : y ≠ "") :
    ∃ y' ys', lines (ofLines ended (xs ++ y :: ys)) = xs.map withoutReturn ++ y' :: ys' ∧
      (y' = y ∨ y' = withoutReturn y) := by
  rw [List.forall_mem_append, List.forall_mem_cons] at hn
  rw [lines_ofLines_append (List.cons_ne_nil _ _) hn.1]
  by_cases hys : ys = []
  · subst hys
    rw [lines_ofLines_singleton hn.2.1]
    cases ended with
    | true => exact ⟨withoutReturn y, [], rfl, .inr rfl⟩
    | false => exact ⟨y, [], by simp [hy], .inl rfl⟩
  · have hcut : lines (ofLines ended ([y] ++ ys)) = [withoutReturn y] ++ lines (ofLines ended ys) :=
      lines_ofLines_append hys (by simpa using hn.2.1)
    exact ⟨withoutReturn y, lines (ofLines ended ys), congrArg _ hcut, .inr rfl⟩

theorem exists_of_lines_ofLines {ended : Bool} {ls xs' ys' : List String} {y' : String}
    (hn : ∀ l ∈ ls, '\n' ∉ l.toList) (hne : ls ≠ [])
    (h : lines (ofLines ended ls) = xs' ++ y' :: ys') :
    ∃ xs y ys, ls = xs ++ y :: ys ∧ xs' = xs.map withoutReturn ∧
      (y' = y ∨ y' = withoutReturn y) := by
  induction ls generalizing xs' with
  | nil => exact absurd rfl hne
  | cons k ks ih =>
    rw [List.forall_mem_cons] at hn
    by_cases hks : ks = []
    · subst hks
      have hk : ∀ l, [l] = xs' ++ y' :: ys' → xs' = [] ∧ y' = l := by
        intro l hl
        rcases List.append_eq_singleton_iff.1 hl.symm with ⟨hx, hy⟩ | ⟨-, hy⟩
        · exact ⟨hx, (List.cons.inj hy).1⟩
        · cases hy
      rw [lines_ofLines_singleton hn.1] at h
      split at h
      next =>
        obtain ⟨rfl, rfl⟩ := hk _ h
        exact ⟨[], k, [], rfl, rfl, .inr rfl⟩
      next =>
        split at h
        next => simp at h
        next =>
          obtain ⟨rfl, rfl⟩ := hk _ h
          exact ⟨[], y', [], rfl, rfl, .inl rfl⟩
    · have hcut : lines (ofLines ended ([k] ++ ks)) = [withoutReturn k] ++
          lines (ofLines ended ks) :=
        lines_ofLines_append hks (by simpa using hn.1)
      rw [← List.singleton_append, hcut, List.singleton_append] at h
      cases xs' with
      | nil => exact ⟨[], k, ks, rfl, rfl, .inr (List.cons.inj h).1.symm⟩
      | cons x xs' =>
        obtain ⟨hx, h⟩ := List.cons.inj h
        obtain ⟨xs, y, ys, rfl, rfl, hy⟩ := ih hn.2 hks h
        exact ⟨k :: xs, y, ys, rfl, hx ▸ rfl, hy⟩

/-! The line feed that ends a text. -/

theorem endsWith_newline_iff (s : String) :
    endsWith s "\n" = true ↔ s.toList.getLast? = some '\n' := by
  unfold endsWith
  rw [← List.head?_reverse]
  cases s.toList.reverse with
  | nil => simp [afterPrefix?]
  | cons c cs =>
    by_cases hc : '\n' = c
    · simp [afterPrefix?, ← hc]
    · simp [afterPrefix?, hc, Ne.symm hc]

theorem lineChars_ne_nil {cs : List Char} (h : cs ≠ []) : lineChars cs ≠ [] := by
  induction cs using line_induction with
  | last l hl => simpa [lineChars_last hl] using h
  | line l cs hl ih => simp [lineChars_line cs hl]

theorem getLast?_line {l cs : List Char} (h : cs ≠ []) :
    (l ++ '\n' :: cs).getLast? = cs.getLast? := by
  rw [List.getLast?_append_of_ne_nil _ (List.cons_ne_nil _ _), List.getLast?_cons_of_ne_nil h]

theorem lineChars_getLast_ne_nil {cs : List Char} (h : cs.getLast? ≠ some '\n') :
    (lineChars cs).getLast? ≠ some [] := by
  induction cs using line_induction with
  | last l hl =>
    rw [lineChars_last hl]
    cases l with
    | nil => simp
    | cons c cs => simp
  | line l cs hl ih =>
    have hne : cs ≠ [] := fun hc => h (by rw [hc, List.getLast?_concat])
    rw [lineChars_line cs hl, List.getLast?_cons_of_ne_nil (lineChars_ne_nil hne)]
    exact ih (getLast?_line hne ▸ h)

theorem lines_ne_nil_of_ended {s : String} (h : endsWith s "\n" = true) : lines s ≠ [] := by
  rw [endsWith_newline_iff] at h
  have hne : s.toList ≠ [] := fun hs => by simp [hs] at h
  simpa [lines] using lineChars_ne_nil hne

theorem lines_getLast_of_not_ended {s : String} (h : endsWith s "\n" = false) :
    (lines s).getLast? ≠ some "" := by
  have hs : s.toList.getLast? ≠ some '\n' := fun hs => by
    rw [(endsWith_newline_iff s).2 hs] at h
    cases h
  intro hl
  rw [lines, List.getLast?_map, Option.map_eq_some_iff] at hl
  obtain ⟨l, hlast, hempty⟩ := hl
  have : l = [] := by simpa using congrArg String.toList hempty
  exact lineChars_getLast_ne_nil hs (this ▸ hlast)

theorem toList_ofLines_lineChars {cs : List Char} (hr : '\r' ∉ cs) :
    (ofLines (decide (cs.getLast? = some '\n')) ((lineChars cs).map String.ofList)).toList =
    cs := by
  induction cs using line_induction with
  | last l hl =>
    have hlast : l.getLast? ≠ some '\n' := fun h => hl (List.mem_of_getLast? h)
    rw [lineChars_last hl, decide_eq_false hlast]
    cases l with
    | nil => rfl
    | cons c cs => simp [toList_ofLines_singleton]
  | line l cs hl ih =>
    rw [List.mem_append, List.mem_cons] at hr
    have hl' : '\r' ∉ l := fun h => hr (.inl h)
    have hcs : '\r' ∉ cs := fun h => hr (.inr (.inr h))
    rw [lineChars_line cs hl, dropReturn_of_not_mem hl', List.map_cons]
    by_cases hne : cs = []
    · simp [hne, lineChars_last, toList_ofLines_singleton]
    · have hmap : (lineChars cs).map String.ofList ≠ [] := by simpa using lineChars_ne_nil hne
      rw [toList_ofLines_cons _ _ hmap, getLast?_line hne, ih hcs, String.toList_ofList]

theorem ofLines_lines {s : String} (hr : '\r' ∉ s.toList) :
    ofLines (endsWith s "\n") (lines s) = s := by
  have hended : endsWith s "\n" = decide (s.toList.getLast? = some '\n') :=
    Bool.eq_iff_iff.2 ((endsWith_newline_iff s).trans decide_eq_true_iff.symm)
  rw [← String.toList_inj, hended]
  exact toList_ofLines_lineChars hr

inductive Spells : List String → List Char → Prop where
  | empty : Spells [] []
  | last {l : String} : '\n' ∉ l.toList → Spells [l] l.toList
  | feed {l : String} {ls : List String} {cs : List Char} : '\n' ∉ l.toList → Spells ls cs →
      Spells (l :: ls) (l.toList ++ '\n' :: cs)
  | returnFeed {l : String} {ls : List String} {cs : List Char} : '\n' ∉ l.toList → Spells ls cs →
      Spells (l :: ls) (l.toList ++ '\r' :: '\n' :: cs)

theorem spells_lineChars (cs : List Char) : Spells ((lineChars cs).map String.ofList) cs := by
  induction cs using line_induction with
  | last l hl =>
    rw [lineChars_last hl]
    cases l with
    | nil => exact .empty
    | cons c cs => simpa using Spells.last (l := String.ofList (c :: cs)) (by simpa using hl)
  | line l cs hl ih =>
    rw [lineChars_line cs hl, List.map_cons]
    by_cases hr : l.getLast? = some '\r'
    · obtain ⟨k, rfl⟩ := List.getLast?_eq_some_iff.1 hr
      have hk : '\n' ∉ k := fun h => hl (List.mem_append_left _ h)
      simpa [dropReturn] using Spells.returnFeed (l := String.ofList k) (by simpa using hk) ih
    · rw [dropReturn_eq_self hr]
      simpa using Spells.feed (l := String.ofList l) (by simpa using hl) ih

theorem spells_lines (s : String) : Spells (lines s) s.toList := spells_lineChars s.toList

theorem spells_ofLines {ended : Bool} {ls : List String} (hn : ∀ l ∈ ls, '\n' ∉ l.toList)
    (hne : ended = true → ls ≠ []) : Spells ls (ofLines ended ls).toList := by
  induction ls with
  | nil =>
    cases ended with
    | true => exact absurd rfl (hne rfl)
    | false => exact .empty
  | cons l ls ih =>
    have hl : '\n' ∉ l.toList := hn l List.mem_cons_self
    by_cases h : ls = []
    · subst h
      rw [toList_ofLines_singleton]
      cases ended with
      | true => exact .feed hl .empty
      | false => simpa using Spells.last hl
    · rw [toList_ofLines_cons ended l h]
      exact .feed hl (ih (fun k hk => hn k (List.mem_cons_of_mem _ hk)) fun _ => h)

theorem toList_unlines_cons (l : String) (ls : List String) :
    (unlines (l :: ls)).toList = l.toList ++ '\n' :: (unlines ls).toList := by
  simp [unlines, String.join_cons]

theorem lines_unlines {ls : List String} (hn : ∀ l ∈ ls, '\n' ∉ l.toList)
    (hr : ∀ l ∈ ls, '\r' ∉ l.toList) :
    lines (unlines ls) = ls := by
  induction ls with
  | nil => rfl
  | cons l ls ih =>
    rw [List.forall_mem_cons] at hn hr
    have ih' := ih hn.2 hr.2
    unfold lines at ih' ⊢
    rw [toList_unlines_cons, lineChars_line _ hn.1, dropReturn_of_not_mem hr.1, List.map_cons, ih',
      String.ofList_toList]

theorem join_cons_cons (sep first second : String) (rest : List String) :
    join sep (first :: second :: rest) = first ++ sep ++ join sep (second :: rest) := by
  simp [join, List.intercalate_cons_cons, String.append_assoc]

end GoScaffold.Text
