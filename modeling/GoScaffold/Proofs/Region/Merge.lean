import GoScaffold.Proofs.Dict
import GoScaffold.Proofs.Region.Scan

/-! Merging keeps the bodies on disk. Where every region of the generated text closes, merging
refills its regions one by one, so the merged text has the same regions with the bodies from disk,
and merging into what was merged before changes nothing. -/

namespace GoScaffold.Region

/-! The bodies of a text, by qualifier. -/

theorem get?_foldl_insert (rs : List Region) (d : Dict (List String)) (q : String) :
    (rs.foldl (fun d r => if d.contains r.qualifier then d else d.insert r.qualifier r.body) d).get?
    q =
      (d.get? q).or ((rs.find? fun r => r.qualifier = q).map Region.body) := by
  induction rs generalizing d with
  | nil => simp
  | cons r rs ih =>
    rw [List.foldl_cons, ih, List.find?_cons]
    by_cases hr : r.qualifier = q
    · subst hr
      cases hd : d.get? r.qualifier with
      | none => simp [Dict.contains, hd, Dict.get?_insert]
      | some body => simp [Dict.contains, hd]
    · by_cases hd : d.contains r.qualifier = true
      · simp [hd, hr]
      · simp [hd, hr, Dict.get?_insert, Ne.symm hr]

theorem get?_bodies (ls : List String) (q : String) :
    (bodies ls).get? q = ((complete none ls).find? fun r => r.qualifier = q).map Region.body := by
  rw [bodies, get?_foldl_insert]
  rfl

theorem exists_of_get?_bodies {ls : List String} {q : String} {body : List String}
    (h : (bodies ls).get? q = some body) : ⟨q, body⟩ ∈ complete none ls := by
  rw [get?_bodies, Option.map_eq_some_iff] at h
  obtain ⟨r, hr, rfl⟩ := h
  have hq : r.qualifier = q := by simpa using List.find?_some hr
  exact hq ▸ List.mem_of_find?_eq_some hr

theorem contains_bodies_iff {ls : List String} {q : String} :
    (bodies ls).contains q = true ↔ ∃ r ∈ complete none ls, r.qualifier = q := by
  rw [Dict.contains, get?_bodies, Option.isSome_map, List.find?_isSome]
  simp

theorem isBody_of_get?_extract {text q : String} {body : List String}
    (h : (extract text).get? q = some body) : IsBody q body :=
  isBody_of_mem_complete (exists_of_get?_bodies h)

theorem mem_lines_of_get?_extract {text q l : String} {body : List String}
    (h : (extract text).get? q = some body) (hl : l ∈ body) : l ∈ Text.lines text :=
  mem_of_mem_complete (exists_of_get?_bodies h) hl

/-! Refilling the regions. -/

section Refill

variable {replacement : String → Option (List String)}

theorem complete_splice (hbody : ∀ q body, replacement q = some body → IsBody q body)
    {ls : List String}
    (h : Laid ls) : complete none (splice replacement none ls) =
      (complete none ls).map fun r => { r with body := (replacement r.qualifier).getD r.body } := by
  induction h with
  | nil => rfl
  | plain hl hls ih => rw [splice_plain hl, complete_plain hl, complete_plain hl, ih]
  | @region b q e body ls hb hb' he hls ih =>
    have hnew : IsBody q ((replacement q).getD body) := by
      cases hq : replacement q with
      | none => exact hb'
      | some kept => exact hbody q kept hq
    rw [splice_region hb hb' he, complete_region hb hnew he, complete_region hb hb' he, ih,
      List.map_cons]

theorem foldl_insert_map (f : String → List String → List String) (rs : List Region)
    (d : Dict (List String)) :
    (rs.map fun r => { r with body := f r.qualifier r.body }).foldl (fun d r =>
        if d.contains r.qualifier then d else d.insert r.qualifier r.body) (d.mapValues f) =
      (rs.foldl (fun d r =>
        if d.contains r.qualifier then d else d.insert r.qualifier r.body) d).mapValues f := by
  induction rs generalizing d with
  | nil => rfl
  | cons r rs ih =>
    rw [List.map_cons, List.foldl_cons, List.foldl_cons, ← ih]
    simp only [Dict.contains_mapValues]
    by_cases hd : d.contains r.qualifier = true
    · simp only [if_pos hd]
    · simp only [if_neg hd, Dict.mapValues_insert]

theorem bodies_splice (hbody : ∀ q body, replacement q = some body → IsBody q body)
    {ls : List String}
    (h : Laid ls) : bodies (splice replacement none ls) =
      (bodies ls).mapValues fun q body => (replacement q).getD body := by
  rw [bodies, complete_splice hbody h]
  exact foldl_insert_map (fun q body => (replacement q).getD body) _ []

theorem getLast?_splice {ls : List String} (h : Laid ls) :
    (splice replacement none ls).getLast? = ls.getLast? := by
  induction h with
  | nil => rfl
  | plain hl hls ih => rw [splice_plain hl, List.getLast?_cons, List.getLast?_cons, ih]
  | region hb hb' he hls ih =>
    rw [splice_region hb hb' he]
    simp only [← List.cons_append, List.getLast?_append, List.getLast?_cons, ih, Option.some_or]

theorem mem_splice {skipping : Option String} {ls : List String} {l : String}
    (hl : l ∈ splice replacement skipping ls) :
    l ∈ ls ∨ ∃ q body, replacement q = some body ∧ l ∈ body := by
  induction ls generalizing skipping with
  | nil => simp at hl
  | cons k ls ih =>
    rw [splice_cons, List.mem_append] at hl
    rcases hl with hl | hl
    · refine (mem_left hl).imp_left ?_
      rintro rfl
      exact List.mem_cons_self
    · exact (ih hl).imp_left (List.mem_cons_of_mem _)

end Refill

/-! The merged text. -/

theorem isBody_of_shared {closed : Dict (List String)} {onDisk q : String} {body : List String}
    (h : shared closed (extract onDisk) q = some body) : IsBody q body := by
  unfold shared at h
  split at h
  · exact isBody_of_get?_extract h
  · cases h

theorem mem_lines_of_mem_mergedLines {generated onDisk l : String}
    (hl : l ∈ mergedLines generated onDisk) :
    l ∈ Text.lines generated ∨ l ∈ Text.lines onDisk := by
  refine (mem_splice hl).imp_right ?_
  rintro ⟨q, body, hq, hl⟩
  unfold shared at hq
  split at hq
  · exact mem_lines_of_get?_extract hq hl
  · cases hq

theorem newline_not_mem_mergedLines {generated onDisk l : String}
    (hl : l ∈ mergedLines generated onDisk) :
    '\n' ∉ l.toList :=
  (mem_lines_of_mem_mergedLines hl).elim Text.newline_not_mem_lines Text.newline_not_mem_lines

theorem splice_none (ls : List String) : splice (fun _ => none) none ls = ls := by
  induction ls with
  | nil => rfl
  | cons l ls ih =>
    cases hl : begins? l with
    | none => rw [splice_plain hl, ih]
    | some q => rw [splice_begin_none hl rfl, ih]

theorem mergedLines_of_isEmpty {generated onDisk : String} (h : (extract onDisk).isEmpty = true) :
    mergedLines generated onDisk = Text.lines generated := by
  have hshared : shared (extract generated) (extract onDisk) = fun _ => none := by
    funext q
    rw [List.isEmpty_iff.1 h]
    exact ite_self none
  rw [mergedLines, hshared, splice_none]

theorem mergedLines_ne_nil {generated onDisk : String} (h : Text.lines generated ≠ []) :
    mergedLines generated onDisk ≠ [] := by
  obtain ⟨l, ls, hls⟩ := List.exists_cons_of_ne_nil h
  rw [mergedLines, hls, splice_cons]
  simp [left]

theorem merge_eq_ofLines {generated onDisk : String} (hr : '\r' ∉ generated.toList) :
    merge generated onDisk = Text.ofLines (Text.endsWith generated "\n")
    (mergedLines generated onDisk) := by
  unfold merge
  split
  next h => rw [mergedLines_of_isEmpty h, Text.ofLines_lines hr]
  next h => rfl

theorem lines_merge {generated onDisk : String} (hg : '\r' ∉ generated.toList)
    (hd : '\r' ∉ onDisk.toList) (hclose : AllClose (Text.lines generated)) :
    Text.lines (merge generated onDisk) = mergedLines generated onDisk := by
  rw [merge_eq_ofLines hg]
  by_cases hempty : Text.lines generated = []
  · have hended : Text.endsWith generated "\n" = false :=
      Bool.eq_false_iff.2 fun h => Text.lines_ne_nil_of_ended h hempty
    rw [mergedLines, hempty, hended]
    rfl
  · refine Text.lines_ofLines (fun l hl => newline_not_mem_mergedLines hl) ?_
      (mergedLines_ne_nil hempty) ?_
    · intro l hl
      exact (mem_lines_of_mem_mergedLines hl).elim (Text.not_mem_lines hg) (Text.not_mem_lines hd)
    · -- the last line is the generated one, as every region closes
      intro hended
      rw [mergedLines, getLast?_splice hclose.laid]
      exact Text.lines_getLast_of_not_ended hended

theorem extract_merge {generated onDisk : String} (hg : '\r' ∉ generated.toList)
    (hd : '\r' ∉ onDisk.toList) (hclose : AllClose (Text.lines generated)) :
    extract (merge generated onDisk) = (extract generated).mapValues fun q body =>
      (shared (extract generated) (extract onDisk) q).getD body := by
  rw [extract, lines_merge hg hd hclose, mergedLines,
    bodies_splice (fun q body h => isBody_of_shared h) hclose.laid]
  rfl

/-- Merging keeps the regions of the generated text, and the body of each is the one on disk if the
region is complete there. -/
theorem extract_merge_preserves (generated onDisk : String) (hg : '\r' ∉ generated.toList)
    (hd : '\r' ∉ onDisk.toList) (hclose : AllClose (Text.lines generated)) :
    (extract (merge generated onDisk)).keys = (extract generated).keys ∧
      ∀ q, (extract generated).contains q = true → (extract (merge generated onDisk)).get? q =
        if (extract onDisk).contains q then (extract onDisk).get? q
            else (extract generated).get? q := by
  rw [extract_merge hg hd hclose]
  refine ⟨Dict.keys_mapValues _ _, ?_⟩
  intro q hq
  obtain ⟨body, hbody⟩ := Dict.contains_iff.1 hq
  rw [Dict.get?_mapValues, hbody, Option.map_some, shared, if_pos hq, Dict.contains]
  cases (extract onDisk).get? q <;> rfl

def twoRegions : String :=
  "ANG:BEGIN_CUSTOM a\nANG:END_CUSTOM a\nANG:BEGIN_CUSTOM b\ny\nANG:END_CUSTOM b\n"

theorem lines_twoRegions : Text.lines twoRegions =
    ["ANG:BEGIN_CUSTOM a", "ANG:END_CUSTOM a", "ANG:BEGIN_CUSTOM b", "y", "ANG:END_CUSTOM b"] :=
  (Text.lines_ofList _).trans rfl

theorem begins?_a : begins? "ANG:BEGIN_CUSTOM a" = some "a" := by decide +kernel

theorem ends?_a : ends? "ANG:END_CUSTOM a" = some "a" := by decide +kernel

def oneFilled : String := "ANG:BEGIN_CUSTOM a\nx\nANG:END_CUSTOM b\nANG:END_CUSTOM a\n"

theorem extract_merge_one_filled :
    ('\r' ∉ twoRegions.toList ∧ '\r' ∉ oneFilled.toList ∧ AllClose (Text.lines twoRegions)) ∧
      (extract (merge twoRegions oneFilled)).keys = ["a", "b"] ∧
      (extract (merge twoRegions oneFilled)).get? "a" = some ["x", "ANG:END_CUSTOM b"] ∧
      (extract (merge twoRegions oneFilled)).get? "b" = some ["y"] := by
  have hlines : Text.lines oneFilled =
      ["ANG:BEGIN_CUSTOM a", "x", "ANG:END_CUSTOM b", "ANG:END_CUSTOM a"] :=
    (Text.lines_ofList _).trans rfl
  have hg : '\r' ∉ twoRegions.toList := by
    rw [twoRegions, String.toList_ofList]
    decide
  have hd : '\r' ∉ oneFilled.toList := by
    rw [oneFilled, String.toList_ofList]
    decide
  have hclose : AllClose (Text.lines twoRegions) := by
    rw [lines_twoRegions]
    decide +kernel
  have hnew : extract twoRegions = [("a", []), ("b", ["y"])] := by
    rw [extract, lines_twoRegions]
    decide +kernel
  have hold : extract oneFilled = [("a", ["x", "ANG:END_CUSTOM b"])] := by
    rw [extract, hlines]
    decide +kernel
  obtain ⟨hkeys, hbodies⟩ := extract_merge_preserves twoRegions oneFilled hg hd hclose
  refine ⟨⟨hg, hd, hclose⟩, ?_, ?_, ?_⟩
  · rw [hkeys, hnew]
    rfl
  · rw [hbodies "a" (by rw [hnew]; rfl), hnew, hold]
    rfl
  · rw [hbodies "b" (by rw [hnew]; rfl), hnew, hold]
    rfl

/-! Merging again. -/

theorem map_qualifier_complete {ls : List String} (h : Laid ls) :
    (complete none ls).map Region.qualifier = ls.filterMap begins? := by
  induction h with
  | nil => rfl
  | plain hl hls ih => rw [complete_plain hl, List.filterMap_cons_none hl, ih]
  | @region b q e body ls hb hbody he hls ih =>
    have hskip : body.filterMap begins? = [] :=
      List.filterMap_eq_nil_iff.2 fun l hl => (hbody l hl).1
    rw [complete_region hb hbody he, List.map_cons, ih, List.filterMap_cons_some hb,
      List.filterMap_append, hskip, List.filterMap_cons_none (begins?_of_ends? he), List.nil_append]

theorem get?_bodies_of_mem {ls : List String}
    (hnodup : ((complete none ls).map Region.qualifier).Nodup)
    {r : Region} (hr : r ∈ complete none ls) : (bodies ls).get? r.qualifier = some r.body := by
  rw [get?_bodies]
  generalize complete none ls = regions at hnodup hr
  induction regions with
  | nil => simp at hr
  | cons k rs ih =>
    rw [List.map_cons, List.nodup_cons] at hnodup
    rw [List.find?_cons]
    rcases List.mem_cons.1 hr with rfl | hr
    · simp
    · have hne : k.qualifier ≠ r.qualifier := fun h => hnodup.1 (h ▸ List.mem_map_of_mem hr)
      simpa [hne] using ih hnodup.2 hr

/-- Replacing bodies by those that another replacement leaves is that replacement. -/
theorem splice_refilled {first second : String → Option (List String)}
    {ls : List String} (h : Laid ls)
    (hsecond : ∀ r ∈ complete none ls, second r.qualifier =
      some ((first r.qualifier).getD r.body)) :
    splice second none ls = splice first none ls := by
  induction h with
  | nil => rfl
  | plain hl hls ih =>
    rw [complete_plain hl] at hsecond
    rw [splice_plain hl, splice_plain hl, ih hsecond]
  | @region b q e body ls hb hbody he hls ih =>
    rw [complete_region hb hbody he, List.forall_mem_cons] at hsecond
    rw [splice_region hb hbody he, splice_region hb hbody he, hsecond.1, ih hsecond.2,
      Option.getD_some]

/-- A text that can be merged again and again: without carriage returns, and with regions that all
close and differ in their qualifiers. -/
structure Refillable (text : String) : Prop where
  no_return : '\r' ∉ text.toList
  all_close : AllClose (Text.lines text)
  distinct : ((Text.lines text).filterMap begins?).Nodup

theorem refillable_twoRegions : Refillable twoRegions where
  no_return := by
    rw [twoRegions, String.toList_ofList]
    decide
  all_close := by
    rw [lines_twoRegions]
    decide +kernel
  distinct := by
    rw [lines_twoRegions]
    decide +kernel

theorem mergedLines_merge {generated onDisk : String} (hg : Refillable generated)
    (hd : '\r' ∉ onDisk.toList) :
    mergedLines generated (merge generated onDisk) = mergedLines generated onDisk := by
  refine splice_refilled hg.all_close.laid fun r hr => ?_
  have hbody : (extract generated).get? r.qualifier = some r.body :=
    get?_bodies_of_mem (map_qualifier_complete hg.all_close.laid ▸ hg.distinct) hr
  have hin : (extract generated).contains r.qualifier = true := Dict.contains_iff.2 ⟨_, hbody⟩
  rw [shared, if_pos hin, extract_merge hg.no_return hd hg.all_close, Dict.get?_mapValues, hbody,
    Option.map_some]

theorem merge_merge {generated onDisk : String} (hg : Refillable generated)
    (hd : '\r' ∉ onDisk.toList) :
    merge generated (merge generated onDisk) = merge generated onDisk := by
  calc merge generated (merge generated onDisk)
      = Text.ofLines (Text.endsWith generated "\n")
          (mergedLines generated (merge generated onDisk)) :=
        merge_eq_ofLines hg.no_return
    _ = Text.ofLines (Text.endsWith generated "\n") (mergedLines generated onDisk) := by
        rw [mergedLines_merge hg hd]
    _ = merge generated onDisk := (merge_eq_ofLines hg.no_return).symm

theorem merge_self {text : String} (h : Refillable text) : merge text text = text := by
  have hempty : merge text "" = text := rfl
  have hagain : merge text (merge text "") = merge text "" := merge_merge h (by simp)
  rwa [hempty] at hagain

end GoScaffold.Region
