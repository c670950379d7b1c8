import GoScaffold.Proofs.Region.Merge

/-! What becomes of one body on disk. Merging puts it behind every beginning of its region that it
comes to, so it is in the merged text, but for carriage returns at the ends of its lines, if such a
beginning has an end behind it and if no region with the same qualifier comes earlier on disk. -/

namespace GoScaffold.Region

/-! Lines between markers. -/

section Encloses

variable {α β : Type}

def Encloses (opens closes : α → Option String) (q : String) (body ls : List α) : Prop :=
  ∃ before b e after, ls = before ++ b :: (body ++ e :: after) ∧ opens b = some q ∧
    closes e = some q

theorem encloses_map {opens closes : β → Option String} {f : α → β} {q : String} {body : List β}
    {ls : List α} : Encloses opens closes q body (ls.map f) ↔
      ∃ inner, body = inner.map f ∧ Encloses (opens ∘ f) (closes ∘ f) q inner ls := by
  constructor
  · rintro ⟨before, b, e, after, h, hb, he⟩
    obtain ⟨before', atBegin, rfl, -, hbegin⟩ := List.map_eq_append_iff.1 h
    obtain ⟨b', behind, rfl, rfl, hbehind⟩ := List.map_eq_cons_iff.1 hbegin
    obtain ⟨inner, atEnd, rfl, hinner, hend⟩ := List.map_eq_append_iff.1 hbehind
    obtain ⟨e', after', rfl, rfl, -⟩ := List.map_eq_cons_iff.1 hend
    exact ⟨inner, hinner.symm, before', b', e', after', rfl, hb, he⟩
  · rintro ⟨inner, rfl, before, b, e, after, rfl, hb, he⟩
    exact ⟨before.map f, f b, f e, after.map f, by simp, hb, he⟩

end Encloses

theorem encloses_lines_ofLines {ended : Bool} {q : String} {body ls : List String}
    (hn : ∀ l ∈ ls, '\n' ∉ l.toList) (hne : ls ≠ []) :
    Encloses begins? ends? q body (Text.lines (Text.ofLines ended ls)) ↔
      ∃ inner, body = inner.map Text.withoutReturn ∧ Encloses begins? ends? q inner ls := by
  have hends : ∀ {e e' : String}, e' = e ∨ e' = Text.withoutReturn e → ends? e' = ends? e := by
    rintro e e' (rfl | rfl)
    · rfl
    · exact ends?_withoutReturn e
  constructor
  · rintro ⟨before, b, e, after, h, hb, he⟩
    rw [← List.cons_append, ← List.append_assoc] at h
    obtain ⟨xs, e', after', rfl, hxs, he'⟩ := Text.exists_of_lines_ofLines hn hne h
    obtain ⟨before', rest, rfl, -, hrest⟩ := List.map_eq_append_iff.1 hxs.symm
    obtain ⟨b', inner, rfl, rfl, hinner⟩ := List.map_eq_cons_iff.1 hrest
    rw [begins?_withoutReturn] at hb
    exact ⟨inner, hinner.symm, before', b', e', after', by simp, hb, hends he' ▸ he⟩
  · rintro ⟨inner, rfl, before, b, e, after, rfl, hb, he⟩
    have hnonempty : e ≠ "" := by
      rintro rfl
      have hnone : ends? "" = none := by decide
      rw [hnone] at he
      cases he
    rw [← List.cons_append, ← List.append_assoc] at hn ⊢
    obtain ⟨e', after', h, he'⟩ := Text.lines_ofLines_cut ended hn hnonempty
    rw [h]
    exact ⟨before.map Text.withoutReturn, Text.withoutReturn b, e', after', by simp,
      (begins?_withoutReturn b).trans hb, (hends he').trans he⟩

/-! Enclosed lines are found when regions are collected. -/

theorem mem_complete_append {r : Region} {xs ys : List String}
    (h : ∀ opened, r ∈ complete opened ys)
    (opened : Option (String × List String)) : r ∈ complete opened (xs ++ ys) := by
  induction xs generalizing opened with
  | nil => exact h opened
  | cons l xs ih =>
    rw [List.cons_append, complete_cons]
    split
    · exact ih _
    · split
      · exact ih _
      · split
        · exact List.mem_cons_of_mem _ (ih _)
        · exact ih _

theorem contains_of_encloses {q : String} {inner ls : List String}
    (h : Encloses begins? ends? q inner ls)
    (hinner : ∀ l ∈ inner, begins? l = none) : (bodies ls).contains q = true := by
  obtain ⟨before, b, e, after, rfl, hb, he⟩ := h
  have hcloses : Closes q (inner ++ e :: after) := ⟨inner, e, after, rfl, hinner, he⟩
  obtain ⟨body, e', rest, hsplit, hbody, he'⟩ := hcloses.exists_body
  refine contains_bodies_iff.2 ⟨⟨q, body⟩, mem_complete_append ?_ none, rfl⟩
  intro opened
  -- a beginning abandons what was opened before it
  have hopen : complete opened (b :: (inner ++ e :: after)) =
      complete none (b :: (inner ++ e :: after)) := by
    rw [complete_begin hb, complete_begin hb]
  rw [hopen, hsplit, complete_region hb hbody he']
  exact List.mem_cons_self

/-! Enclosed lines in what replacing bodies leaves. -/

section Reached

variable {replacement : String → Option (List String)}

/-- Replacing bodies comes to a beginning of the region, and an end of it is somewhere behind. -/
def Reached (replacement : String → Option (List String)) (q : String) (ls : List String) : Prop :=
  ∃ before b after, ls = before ++ b :: after ∧ begins? b = some q ∧
    before.foldl (skipNext replacement) none = none ∧ ∃ e ∈ after, ends? e = some q

theorem exists_of_splice_eq {q b : String} {body ls xs ys : List String} {skipping : Option String}
    (hbody : ∀ q body, replacement q = some body → IsBody q body) (hq : replacement q = some body)
    (hb : begins? b = some q) (h : splice replacement skipping ls = xs ++ b :: ys) :
    ∃ before after, ls = before ++ b :: after ∧
      before.foldl (skipNext replacement) skipping = none ∧
      ys = body ++ splice replacement (some q) after := by
  induction ls generalizing skipping xs with
  | nil => simp at h
  | cons l ls ih =>
    have hlater : ∀ xs', splice replacement (skipNext replacement skipping l) ls = xs' ++ b :: ys →
        ∃ before after, l :: ls = before ++ b :: after ∧
          before.foldl (skipNext replacement) skipping = none ∧
          ys = body ++ splice replacement (some q) after := by
      intro xs' h'
      obtain ⟨before, after, rfl, hnone, hys⟩ := ih h'
      exact ⟨l :: before, after, rfl, hnone, hys⟩
    rw [splice_cons] at h
    rcases List.append_eq_append_iff.1 h with ⟨xs', -, h'⟩ | ⟨ys', hleft, h'⟩
    · exact hlater xs' h'
    · cases ys' with
      | nil => exact hlater [] h'.symm
      | cons b' ys' =>
        obtain ⟨rfl, rfl⟩ := List.cons.inj h'
        obtain ⟨rfl, rfl, rfl, rfl⟩ := left_eq_of_begins? hbody hb hleft
        refine ⟨[], ls, rfl, rfl, ?_⟩
        simp [skipNext, Option.filter_some, hb, hq]

theorem eq_of_append_end {q e e' : String} {body body' rest rest' : List String}
    (hbody : IsBody q body)
    (hbody' : IsBody q body') (he : ends? e = some q) (he' : ends? e' = some q)
    (h : body ++ e :: rest = body' ++ e' :: rest') : body = body' := by
  induction body generalizing body' with
  | nil =>
    cases body' with
    | nil => rfl
    | cons l body' =>
      obtain ⟨rfl, -⟩ := List.cons.inj h
      exact absurd he (hbody' e List.mem_cons_self).2
  | cons k body ih =>
    cases body' with
    | nil =>
      obtain ⟨rfl, -⟩ := List.cons.inj h
      exact absurd he' (hbody k List.mem_cons_self).2
    | cons l body' =>
      obtain ⟨rfl, htail⟩ := List.cons.inj h
      rw [ih hbody.tail hbody'.tail htail]

theorem splice_some_eq (replacement : String → Option (List String)) (q : String)
    (ls : List String) :
    ((∀ l ∈ ls, ends? l ≠ some q) ∧ splice replacement (some q) ls = []) ∨
      ∃ passed e rest, ls = passed ++ e :: rest ∧ ends? e = some q ∧
        splice replacement (some q) ls = e :: splice replacement none rest := by
  induction ls with
  | nil => exact .inl ⟨fun l hl => absurd hl List.not_mem_nil, rfl⟩
  | cons l ls ih =>
    by_cases he : ends? l = some q
    · exact .inr ⟨[], l, ls, rfl, he, splice_end he⟩
    · have hpass : splice replacement (some q) ([l] ++ ls) = splice replacement (some q) ls :=
        splice_pass (by simpa using he)
      rw [← List.singleton_append, hpass]
      rcases ih with ⟨hno, hnil⟩ | ⟨passed, e, rest, rfl, he', hrest⟩
      · exact .inl ⟨List.forall_mem_cons.2 ⟨he, hno⟩, hnil⟩
      · exact .inr ⟨l :: passed, e, rest, rfl, he', hrest⟩

/-- A region that is replaced and reached encloses the body put there, and no other. -/
theorem encloses_splice_iff {q : String} {body kept ls : List String}
    (hbody : ∀ q body, replacement q = some body → IsBody q body) (hq : replacement q = some kept)
    (hb : IsBody q body) :
    Encloses begins? ends? q body (splice replacement none ls) ↔ body = kept ∧
    Reached replacement q ls := by
  have hkept : IsBody q kept := hbody q kept hq
  constructor
  · rintro ⟨xs, b, e, ys, h, hbegin, hend⟩
    obtain ⟨before, after, rfl, hnone, hys⟩ := exists_of_splice_eq hbody hq hbegin h
    rcases splice_some_eq replacement q after with
      ⟨-, hnil⟩ | ⟨passed, e', rest, rfl, he', hrest⟩
    · -- without an end behind it, the body put there would hold one
      rw [hnil, List.append_nil] at hys
      have hin : e ∈ kept := hys ▸ List.mem_append_right _ List.mem_cons_self
      exact absurd hend (hkept e hin).2
    · rw [hrest] at hys
      exact ⟨eq_of_append_end hb hkept hend he' hys,
        before, b, _, rfl, hbegin, hnone, e', List.mem_append_right _ List.mem_cons_self, he'⟩
  · rintro ⟨rfl, before, b, after, rfl, hbegin, hnone, e, he, hend⟩
    rcases splice_some_eq replacement q after with
      ⟨hno, -⟩ | ⟨passed, e', rest, rfl, he', hrest⟩
    · exact absurd hend (hno e he)
    · refine ⟨splice replacement none before, b, e', splice replacement none rest, ?_, hbegin, he'⟩
      rw [splice_append, hnone, splice_begin_some hbegin hq, hrest]

end Reached

theorem encloses_merge_iff {generated onDisk q : String} {body first : List String}
    (hclosed : (extract generated).contains q = true)
    (hfirst : (extract onDisk).get? q = some first)
    (hbody : ∀ l ∈ body, begins? l = none ∧ ends? l = none) :
    Encloses begins? ends? q body (Text.lines (merge generated onDisk)) ↔
      body = first.map Text.withoutReturn ∧
        Reached (shared (extract generated) (extract onDisk)) q (Text.lines generated) := by
  have hmerge : merge generated onDisk =
      Text.ofLines (Text.endsWith generated "\n") (mergedLines generated onDisk) := by
    have hsome : (extract onDisk).isEmpty = false := by
      cases h : extract onDisk with
      | nil => rw [h] at hfirst; cases hfirst
      | cons entry rest => rfl
    simp [merge, hsome, Text.ofLines]
  have hne : Text.lines generated ≠ [] := by
    intro h
    rw [extract, h] at hclosed
    cases hclosed
  have hshared : shared (extract generated) (extract onDisk) q = some first := by
    rw [shared, if_pos hclosed, hfirst]
  rw [hmerge, encloses_lines_ofLines (fun l hl => newline_not_mem_mergedLines hl)
    (mergedLines_ne_nil hne)]
  constructor
  · rintro ⟨inner, rfl, h⟩
    have hinner : IsBody q inner := by
      intro l hl
      obtain ⟨hb, he⟩ := hbody _ (List.mem_map_of_mem hl)
      rw [begins?_withoutReturn] at hb
      rw [ends?_withoutReturn] at he
      exact ⟨hb, by simp [he]⟩
    obtain ⟨rfl, hreached⟩ :=
      (encloses_splice_iff (fun q body h => isBody_of_shared h) hshared hinner).1 h
    exact ⟨rfl, hreached⟩
  · rintro ⟨rfl, hreached⟩
    exact ⟨first, rfl, (encloses_splice_iff (fun q body h => isBody_of_shared h) hshared
      (isBody_of_get?_extract hfirst)).2 ⟨rfl, hreached⟩⟩

end GoScaffold.Region
