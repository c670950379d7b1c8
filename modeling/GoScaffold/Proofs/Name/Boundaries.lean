import GoScaffold.Proofs.Name.Stability
import GoScaffold.Proofs.Text.Case

/-! Names that differ in the case of their letters alone. Where a word starts depends on case, so
such names may have other words; their JSON keys show where words start, and agree exactly if the
words do. -/

namespace GoScaffold

namespace Text

variable {r s t : String}

theorem sameLetters_symm (h : sameLetters s t = true) : sameLetters t s = true :=
  beq_iff_eq.2 (beq_iff_eq.1 h).symm

theorem sameLetters_trans (hrs : sameLetters r s = true) (hst : sameLetters s t = true) :
    sameLetters r t = true :=
  beq_iff_eq.2 ((beq_iff_eq.1 hrs).trans (beq_iff_eq.1 hst))

end Text

namespace Name

open Text

section

variable {c d : Char} {cs ds u v : List Char}

theorem capital_congr (h : u.map Char.toLower = v.map Char.toLower) : capital u = capital v := by
  rw [← capital_map_toLower, h, capital_map_toLower]

theorem isAlphanum_congr (h : c.toLower = d.toLower) : c.isAlphanum = d.isAlphanum := by
  rw [← isAlphanum_toLower, h, isAlphanum_toLower]

theorem capital_append_singleton (hne : u ≠ []) (c : Char) :
    capital (u ++ [c]) = capital u ++ [c.toLower] := by
  cases u with
  | nil => exact absurd rfl hne
  | cons d u => simp [capital]

theorem exists_flatMap_capital (u cs : List Char) :
    ∃ rest, (wordsFrom u cs).flatMap capital = capital u.reverse ++ rest := by
  fun_induction wordsFrom u cs with
  | case1 u hu => exact ⟨[], by simp [List.isEmpty_iff.1 hu, capital]⟩
  | case2 u hu => exact ⟨[], by simp⟩
  | case3 c rest hc ih => exact ⟨_, rfl⟩
  | case4 c rest hc ih => exact ⟨_, rfl⟩
  | case5 c rest last u hc ih => exact ⟨_, List.flatMap_cons⟩
  | case6 c rest last u hc hstarts ih => exact ⟨_, List.flatMap_cons⟩
  | case7 c rest last u hc hstarts ih =>
    obtain ⟨more, hmore⟩ := ih
    refine ⟨c.toLower :: more, ?_⟩
    rw [hmore, List.reverse_cons, capital_append_singleton (by simp), List.append_assoc]
    rfl

theorem isUpper_of_startsWord {before : Char} {after : Option Char}
    (h : startsWord before c after = true) :
    c.isUpper = true := by
  unfold startsWord at h
  exact (Bool.and_eq_true_iff.1 h).1

theorem flatMap_capital_ne (huv : u.map Char.toLower = v.map Char.toLower) (hv : v ≠ [])
    (hcd : c.toLower = d.toLower)
    (hc : c.isUpper = true) (cs ds : List Char) :
    (u.reverse :: wordsFrom [c] cs).flatMap capital ≠ (wordsFrom (d :: v) ds).flatMap capital := by
  intro hkey
  obtain ⟨after, hafter⟩ := exists_flatMap_capital [c] cs
  obtain ⟨more, hmore⟩ := exists_flatMap_capital (d :: v) ds
  have hword : capital u.reverse = capital v.reverse :=
    capital_congr (by rw [List.map_reverse, List.map_reverse, huv])
  rw [List.reverse_cons, capital_append_singleton (by simpa using hv), List.append_assoc] at hmore
  rw [List.flatMap_cons, hafter, hmore, hword, List.append_cancel_left_eq] at hkey
  have hhead : c.toUpper = d.toLower := (List.cons.inj hkey).1
  rw [Char.toUpper_eq_of_not_isLower (Char.not_isLower_of_isUpper hc), ← hcd] at hhead
  have hlower := Char.isUpper_toLower_eq_false c
  rw [← hhead, hc] at hlower
  cases hlower

theorem wordsFrom_nil_congr (huv : u.map Char.toLower = v.map Char.toLower) :
    (wordsFrom u []).map (List.map Char.toLower) = (wordsFrom v []).map (List.map Char.toLower) ∧
      (wordsFrom u []).flatMap capital = (wordsFrom v []).flatMap capital := by
  have hrev : u.reverse.map Char.toLower = v.reverse.map Char.toLower := by
    rw [List.map_reverse, List.map_reverse, huv]
  have hempty : u = [] ↔ v = [] := by rw [← List.map_eq_nil_iff, huv, List.map_eq_nil_iff]
  simp only [wordsFrom, List.isEmpty_iff, hempty]
  split_ifs
  · exact ⟨rfl, rfl⟩
  · simp [hrev, capital_congr hrev]

/-- The words of both names are found together, for as long as the keys agree. -/
theorem map_wordsFrom_of_flatMap_eq (hcs : cs.map Char.toLower = ds.map Char.toLower)
    (huv : u.map Char.toLower = v.map Char.toLower)
    (hkey : (wordsFrom u cs).flatMap capital = (wordsFrom v ds).flatMap capital) :
    (wordsFrom u cs).map (List.map Char.toLower) =
    (wordsFrom v ds).map (List.map Char.toLower) := by
  induction cs generalizing ds u v with
  | nil =>
    obtain rfl : ds = [] := List.map_eq_nil_iff.1 hcs.symm
    exact (wordsFrom_nil_congr huv).1
  | cons c cs ih =>
    obtain ⟨d, ds, rfl⟩ : ∃ d es, ds = d :: es := by
      cases ds with
      | nil => cases hcs
      | cons d ds => exact ⟨d, ds, rfl⟩
    obtain ⟨hcd, hrest⟩ := List.cons.inj hcs
    have hclass := isAlphanum_congr hcd
    cases hc : c.isAlphanum with
    | false =>
      obtain ⟨hwords, hcapital⟩ := wordsFrom_nil_congr huv
      rw [wordsFrom_separated hc, wordsFrom_separated (hclass ▸ hc), List.flatMap_append,
        List.flatMap_append, hcapital, List.append_cancel_left_eq] at hkey
      rw [wordsFrom_separated hc, wordsFrom_separated (hclass ▸ hc), List.map_append,
        List.map_append, hwords, ih hrest rfl hkey]
    | true =>
      have hd : d.isAlphanum = true := hclass ▸ hc
      have hsingle : [c].map Char.toLower = [d].map Char.toLower := congrArg (fun x => [x]) hcd
      cases u with
      | nil =>
        obtain rfl : v = [] := List.map_eq_nil_iff.1 huv.symm
        rw [wordsFrom_first hc, wordsFrom_first hd] at hkey ⊢
        exact ih hrest hsingle hkey
      | cons last u =>
        obtain ⟨other, v, rfl⟩ : ∃ other w, v = other :: w := by
          cases v with
          | nil => cases huv
          | cons other v => exact ⟨other, v, rfl⟩
        have hlonger : (c :: last :: u).map Char.toLower = (d :: other :: v).map Char.toLower :=
          congrArg₂ List.cons hcd huv
        rw [wordsFrom_cons hc, wordsFrom_cons hd] at hkey ⊢
        cases hstarts : startsWord last c cs.head? <;> cases hother : startsWord other d ds.head?
        all_goals rw [hstarts, hother] at hkey
        · exact ih hrest hlonger hkey
        · exact absurd hkey.symm (flatMap_capital_ne huv.symm (by simp) hcd.symm
            (isUpper_of_startsWord hother) ds cs)
        · exact absurd hkey (flatMap_capital_ne huv (by simp) hcd (isUpper_of_startsWord hstarts) cs
            ds)
        · have hword : (last :: u).reverse.map Char.toLower =
              (other :: v).reverse.map Char.toLower := by
            rw [List.map_reverse, List.map_reverse, huv]
          rw [if_pos rfl, if_pos rfl, List.flatMap_cons, List.flatMap_cons, capital_congr hword,
            List.append_cancel_left_eq] at hkey
          rw [if_pos rfl, if_pos rfl, List.map_cons, List.map_cons, hword,
            ih hrest hsingle hkey]

end

section

variable {s t : String}

theorem toList_lower_ofList {w : List Char} (h : Alphanum w) :
    (lower (String.ofList w)).toList = w.map Char.toLower := by
  have hlower := toList_lower (s := String.ofList w) (by rwa [String.toList_ofList])
  rwa [String.toList_ofList] at hlower

theorem toList_jsonKey (h : ∃ c ∈ s.toList, c.isAlphanum = true) {w : List Char}
    {ws : List (List Char)}
    (hfound : wordsFrom [] s.toList = w :: ws) :
    (jsonKey s).toList = w.map Char.toLower ++ ws.flatMap capital := by
  have hletters : ∀ x ∈ w :: ws, Alphanum x := fun x hx =>
    isAlphanum_of_mem_wordsFrom (List.forall_mem_nil _) (hfound ▸ hx)
  rw [List.forall_mem_cons] at hletters
  have hwords : words s = String.ofList w :: ws.map String.ofList := by
    rw [words_eq_map h, hfound, List.map_cons]
  have hrest : ws.flatMap (fun x => (jsonWord (String.ofList x)).toList) = ws.flatMap capital := by
    refine List.flatMap_congr fun x hx => ?_
    rw [toList_jsonWord (by rw [String.toList_ofList]; exact hletters.2 x hx), String.toList_ofList]
  unfold jsonKey
  rw [hwords]
  dsimp only
  rw [String.toList_join, List.flatMap_cons, toList_lower_ofList hletters.1, List.flatMap_map,
    List.flatMap_map, hrest]

theorem exists_wordsFrom_eq_cons (h : ∃ c ∈ s.toList, c.isAlphanum = true) :
    ∃ w ws, wordsFrom [] s.toList = w :: ws ∧ w ≠ [] := by
  obtain ⟨w, ws, hfound⟩ := List.exists_cons_of_ne_nil (l := wordsFrom [] s.toList) (by
    intro hnil
    have hwords := words_eq_map h
    rw [hnil] at hwords
    exact words_ne_nil h hwords)
  exact ⟨w, ws, hfound, ne_nil_of_mem_wordsFrom (hfound ▸ List.mem_cons_self)⟩

theorem modifyHead_jsonKey (h : ∃ c ∈ s.toList, c.isAlphanum = true) :
    (jsonKey s).toList.modifyHead Char.toUpper = (wordsFrom [] s.toList).flatMap capital := by
  obtain ⟨w, ws, hfound, hne⟩ := exists_wordsFrom_eq_cons h
  obtain ⟨c, cs, rfl⟩ := List.exists_cons_of_ne_nil hne
  rw [toList_jsonKey h hfound, hfound, List.flatMap_cons]
  simp [capital]

theorem map_lower_words (h : ∃ c ∈ s.toList, c.isAlphanum = true) :
    (words s).map lower = ((wordsFrom [] s.toList).map (List.map Char.toLower)).map
    String.ofList := by
  rw [words_eq_map h, List.map_map, List.map_map]
  refine List.map_congr_left fun w hw => ?_
  have hletters : Alphanum w := isAlphanum_of_mem_wordsFrom (List.forall_mem_nil _) hw
  rw [Function.comp_apply, Function.comp_apply, ← toList_lower_ofList hletters,
    String.ofList_toList]

theorem jsonWord_lower (word : String) : jsonWord (lower word) = jsonWord word := by
  unfold jsonWord
  rw [lower_lower]

theorem jsonKey_of_map_lower (h : (words s).map lower = (words t).map lower) :
    jsonKey s = jsonKey t := by
  have hrest {us vs : List String} (h : us.map lower = vs.map lower) : us.map jsonWord =
      vs.map jsonWord := by
    have hcongr := congrArg (List.map jsonWord) h
    simpa only [List.map_map, Function.comp_def, jsonWord_lower] using hcongr
  unfold jsonKey
  cases hs : words s with
  | nil =>
    rw [hs, List.map_nil, eq_comm, List.map_eq_nil_iff] at h
    rw [h]
  | cons u us =>
    cases ht : words t with
    | nil =>
      rw [hs, ht] at h
      cases h
    | cons v vs =>
      rw [hs, ht, List.map_cons, List.map_cons] at h
      obtain ⟨hfirst, hothers⟩ := List.cons.inj h
      dsimp only
      rw [hfirst, hrest hothers]

theorem some_alphanum_congr (h : sameLetters s t = true)
    (hsome : ∃ c ∈ s.toList, c.isAlphanum = true) :
    ∃ c ∈ t.toList, c.isAlphanum = true := by
  obtain ⟨c, hc, halphanum⟩ := hsome
  have hmem : c.toLower ∈ t.toList.map Char.toLower := beq_iff_eq.1 h ▸ List.mem_map_of_mem hc
  obtain ⟨d, hd, hdc⟩ := List.mem_map.1 hmem
  exact ⟨d, hd, (isAlphanum_congr hdc).trans halphanum⟩

theorem map_toLower_bare {cs : List Char} (hnone : ∀ c ∈ cs, c.isAlphanum = false) :
    cs.map Char.toLower = cs := by
  refine (List.map_congr_left fun c hc => ?_).trans (List.map_id cs)
  refine toLower_eq_self_iff.2 (Bool.eq_false_iff.2 fun hupper => ?_)
  have hother := hnone c hc
  unfold Char.isAlphanum Char.isAlpha at hother
  rw [hupper] at hother
  cases hother

theorem eq_of_sameLetters_bare (h : sameLetters s t = true)
    (hnone : ∀ c ∈ s.toList, c.isAlphanum = false) :
    s = t := by
  have hother : ∀ c ∈ t.toList, c.isAlphanum = false := by
    rcases some_or_none_alphanum t with hsome | hother
    · exact absurd hnone (not_none_of_some_alphanum
        (some_alphanum_congr (sameLetters_symm h) hsome))
    · exact hother
  have hsame : s.toList.map Char.toLower = t.toList.map Char.toLower := beq_iff_eq.1 h
  rw [map_toLower_bare hnone, map_toLower_bare hother] at hsame
  exact String.toList_inj.1 hsame

/-- Names with the same letters have the same key exactly if they have the same words, up to
case. -/
theorem jsonKey_eq_iff (h : sameLetters s t = true) :
    jsonKey s = jsonKey t ↔ (words s).map lower = (words t).map lower := by
  refine ⟨fun hkey => ?_, jsonKey_of_map_lower⟩
  have hsame : s.toList.map Char.toLower = t.toList.map Char.toLower := beq_iff_eq.1 h
  rcases some_or_none_alphanum s with hsome | hnone
  · have hother := some_alphanum_congr h hsome
    have hcapital : (wordsFrom [] s.toList).flatMap capital =
        (wordsFrom [] t.toList).flatMap capital := by
      rw [← modifyHead_jsonKey hsome, ← modifyHead_jsonKey hother, hkey]
    rw [map_lower_words hsome, map_lower_words hother,
      map_wordsFrom_of_flatMap_eq hsame rfl hcapital]
  · rw [eq_of_sameLetters_bare h hnone]

theorem documentKey_eq_iff (h : sameLetters s t = true) :
    documentKey s = documentKey t ↔ sameLetters t "id" = true ∨ (words s).map lower =
    (words t).map lower := by
  unfold documentKey
  by_cases hid : sameLetters t "id" = true
  · rw [if_pos hid, if_pos (sameLetters_trans h hid)]
    exact iff_of_true rfl (.inl hid)
  · have hother : ¬sameLetters s "id" = true :=
      fun hs => hid (sameLetters_trans (sameLetters_symm h) hs)
    rw [if_neg hid, if_neg hother, jsonKey_eq_iff h, or_iff_right hid]

theorem sameLetters_exported_self_iff (s : String) :
    sameLetters s (exported s) = true ↔ Alphanum s.toList ∨ exported s = s := by
  rcases some_or_none_alphanum s with hsome | hnone
  · constructor
    · exact fun h => .inl (alphanum_of_map_toLower (alphanum_exported hsome) (beq_iff_eq.1 h))
    · rintro (halphanum | hself)
      · apply sameLetters_symm
        rw [sameLetters_exported hsome, sameLetters, toList_letters_of_alphanum halphanum,
          beq_self_eq_true]
      · rw [hself, sameLetters, beq_self_eq_true]
  · constructor
    · exact fun h => .inr (eq_of_sameLetters_bare h hnone).symm
    · rintro (halphanum | hself)
      · have hempty : s = "" := by
          rw [← String.toList_eq_nil_iff, List.eq_nil_iff_forall_not_mem]
          intro c hc
          exact absurd (halphanum c hc) (by simp [hnone c hc])
        rw [hempty]
        decide
      · rw [hself, sameLetters, beq_self_eq_true]

end

end Name

end GoScaffold
