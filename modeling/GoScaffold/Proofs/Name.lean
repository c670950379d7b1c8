import GoScaffold.Proofs.Text.Nesting

/-! Characters of exported names. A change of case gives few ASCII characters to those beyond ASCII,
so most of them stand in an exported name only where the name has one of their own. A name has words
of letters and digits, or is a word without any. -/

namespace GoScaffold

namespace Text

def CaseRun.Misses (r : CaseRun) (n : Nat) : Prop := r.last + r.shift < n ∨ n < r.first + r.shift

instance (r : CaseRun) (n : Nat) : Decidable (r.Misses n) :=
  inferInstanceAs (Decidable (r.last + r.shift < n ∨ n < r.first + r.shift))

/-- Only ASCII characters have this one in their lower case, and only itself has it in its upper
case. -/
structure Unreached (x : Char) : Prop where
  ascii : 0 < x.toNat ∧ x.toNat < 0x80
  small : x.toLower = x
  undotted : x ≠ 'i'
  lowerRuns : ∀ r ∈ lowerRuns, r.Misses x.toNat
  upperRuns : ∀ r ∈ upperRuns, r.Misses x.toNat
  upperExpansions : ∀ e ∈ upperExpansions, x.toNat ∉ e.2
  toUpper : ∀ k < 0x80, (Char.ofNat k).toUpper = x → Char.ofNat k = x

theorem unreached_point : Unreached '.' := by constructor <;> decide +kernel

theorem unreached_d : Unreached 'd' := by constructor <;> decide +kernel

section

variable {x c : Char} {cs : List Char}

theorem image?_ne {runs : List CaseRun} {k n : Nat} (hn : 0 < n) (hruns : ∀ r ∈ runs, r.Misses n) :
    CaseRun.image? k runs ≠ some n := by
  induction runs with
  | nil => exact nofun
  | cons r runs ih =>
    rw [List.forall_mem_cons] at hruns
    rw [CaseRun.image?]
    split
    next hheld =>
      intro h
      have hmisses := hruns.1
      rw [CaseRun.Misses] at hmisses
      have himage := Option.some.inj h
      omega
    next => exact ih hruns.2

theorem eq_of_ofNat_eq {k : Nat} (hx : 0 < x.toNat) (h : Char.ofNat k = x) : k = x.toNat := by
  subst h
  by_cases hvalid : k.isValidChar
  · rw [Char.ofNat, dif_pos hvalid]
    rfl
  · rw [Char.ofNat, dif_neg hvalid] at hx
    exact absurd hx (by decide)

theorem Unreached.ne_image (hx : Unreached x) {runs : List CaseRun}
    (hruns : ∀ r ∈ runs, r.Misses x.toNat)
    (hc : 0x80 ≤ c.toNat) : x ≠ ((CaseRun.image? c.toNat runs).map Char.ofNat).getD c := by
  cases himage : CaseRun.image? c.toNat runs with
  | none =>
    rintro rfl
    exact absurd hx.ascii.2 (not_lt.2 hc)
  | some m =>
    intro heq
    have hm : m = x.toNat := eq_of_ofNat_eq hx.ascii.1 heq.symm
    exact image?_ne hx.ascii.1 hruns (himage.trans (congrArg some hm))

theorem Unreached.of_mem_lowerChar (hx : Unreached x) (h : x ∈ lowerChar c) : c.toLower = x := by
  unfold lowerChar at h
  split_ifs at h with hascii hdotted
  · exact (List.mem_singleton.1 h).symm
  · simp only [List.mem_cons, List.not_mem_nil, or_false] at h
    rcases h with h | h
    · exact absurd h hx.undotted
    · exact absurd (congrArg Char.toNat h) (ne_of_lt (hx.ascii.2.trans (by decide)))
  · exact absurd (List.mem_singleton.1 h) (hx.ne_image hx.lowerRuns (not_lt.1 hascii))

theorem Unreached.of_mem_upperChar (hx : Unreached x) (h : x ∈ upperChar c) : c = x := by
  unfold upperChar at h
  split at h
  next hascii =>
    have hupper := hx.toUpper c.toNat hascii
    rw [Char.ofNat_toNat] at hupper
    exact hupper (List.mem_singleton.1 h).symm
  next hbeyond =>
    exfalso
    split at h
    next ks hks =>
      obtain ⟨before, after, htable, -⟩ := List.lookup_eq_some_iff.1 hks
      have hmem : (c.toNat, ks) ∈ Text.upperExpansions :=
        htable ▸ List.mem_append_right _ List.mem_cons_self
      obtain ⟨k, hk, hxk⟩ := List.mem_map.1 h
      exact hx.upperExpansions _ hmem (eq_of_ofNat_eq hx.ascii.1 hxk ▸ hk)
    next => exact hx.ne_image hx.upperRuns (not_lt.1 hbeyond) (List.mem_singleton.1 h)

theorem Unreached.of_mem_lowerFrom (hx : Unreached x) {before : List Char}
    (h : x ∈ lowerFrom before cs) :
    ∃ c ∈ cs, c.toLower = x := by
  induction cs generalizing before with
  | nil => exact absurd h List.not_mem_nil
  | cons c cs ih =>
    rw [lowerFrom, List.mem_append] at h
    rcases h with h | h
    · refine ⟨c, List.mem_cons_self, ?_⟩
      split at h
      next =>
        exact absurd (congrArg Char.toNat (List.mem_singleton.1 h))
          (ne_of_lt (hx.ascii.2.trans (by decide)))
      next => exact hx.of_mem_lowerChar h
    · obtain ⟨d, hd, hlower⟩ := ih h
      exact ⟨d, List.mem_cons_of_mem _ hd, hlower⟩

theorem Unreached.of_mem_upper (hx : Unreached x) {s : String} (h : x ∈ (upper s).toList) :
    x ∈ s.toList := by
  rw [upper, String.toList_ofList, List.mem_flatMap] at h
  obtain ⟨c, hc, hmem⟩ := h
  exact hx.of_mem_upperChar hmem ▸ hc

theorem Unreached.of_mem_upperFirst (hx : Unreached x) {s : String}
    (h : x ∈ (upperFirst s).toList) :
    x ∈ s.toList := by
  unfold upperFirst at h
  split at h
  next => exact absurd h List.not_mem_nil
  next c rest hs =>
    rw [String.toList_ofList, List.mem_append] at h
    rw [hs, List.mem_cons]
    exact h.imp_left fun hc => (hx.of_mem_upperChar hc).symm

theorem isAlphanum_toLower (c : Char) : c.toLower.isAlphanum = c.isAlphanum := by
  unfold Char.toLower
  by_cases hupper : c.val ≥ 'A'.val ∧ c.val ≤ 'Z'.val
  · rw [dif_pos hupper, Bool.eq_iff_iff]
    unfold Char.isAlphanum Char.isAlpha Char.isUpper Char.isLower Char.isDigit
    simp only [Bool.or_eq_true, Bool.and_eq_true, decide_eq_true_eq]
    grind
  · rw [dif_neg hupper]

end

end Text

namespace Name

open Text

theorem exists_of_mem_exportWord {x : Char} (hx : Unreached x) {word : String}
    (h : x ∈ (exportWord word).toList) :
    ∃ c ∈ word.toList, c.toLower = x := by
  unfold exportWord at h
  dsimp only at h
  split at h
  · exact ⟨x, hx.of_mem_upper h, hx.small⟩
  · have hlower := hx.of_mem_upperFirst h
    rw [lower, String.toList_ofList] at hlower
    exact hx.of_mem_lowerFrom hlower

theorem wordsFrom_cons_ne_nil (c : Char) (word cs : List Char) : wordsFrom (c :: word) cs ≠ [] := by
  induction cs generalizing c word with
  | nil => simp [wordsFrom]
  | cons d cs ih =>
    rw [wordsFrom]
    split_ifs
    · exact List.cons_ne_nil _ _
    · exact List.cons_ne_nil _ _
    · exact ih d (c :: word)

theorem not_isAlphanum_of_wordsFrom_eq_nil {cs : List Char} (h : wordsFrom [] cs = []) :
    ∀ c ∈ cs, c.isAlphanum = false := by
  induction cs with
  | nil => exact List.forall_mem_nil _
  | cons c cs ih =>
    rw [wordsFrom] at h
    split at h
    next hc => exact absurd h (wordsFrom_cons_ne_nil c [] cs)
    next hc => exact List.forall_mem_cons.2 ⟨Bool.eq_false_iff.2 hc, ih h⟩

theorem words_alphanum_or (s : String) :
    (∀ word ∈ words s, ∀ c ∈ word.toList, c.isAlphanum = true) ∨
      ∀ word ∈ words s, ∀ c ∈ word.toList, c.isAlphanum = false := by
  rw [words_eq]
  split_ifs with hempty hnone
  · exact .inl (List.forall_mem_nil _)
  · exact .inr (by simpa using not_isAlphanum_of_wordsFrom_eq_nil hnone)
  · refine .inl (List.forall_mem_map.2 fun w hw => ?_)
    rw [String.toList_ofList]
    exact isAlphanum_of_mem_wordsFrom (List.forall_mem_nil _) hw

theorem irregular_no_point : ∀ entry ∈ irregular, '.' ∉ entry.2.toList := by decide

theorem exists_of_mem_join {x : Char} (hx : Unreached x) {ws : List String}
    (h : x ∈ (String.join (ws.map exportWord)).toList) :
    ∃ word ∈ ws, ∃ c ∈ word.toList, c.isAlphanum = x.isAlphanum := by
  rw [String.toList_join, List.mem_flatMap] at h
  obtain ⟨text, htext, hmem⟩ := h
  obtain ⟨word, hword, rfl⟩ := List.mem_map.1 htext
  obtain ⟨c, hc, rfl⟩ := exists_of_mem_exportWord hx hmem
  exact ⟨word, hword, c, hc, (isAlphanum_toLower c).symm⟩

theorem not_mem_exported (s : String) : '.' ∉ (exported s).toList ∨ 'd' ∉ (exported s).toList := by
  unfold exported
  split
  next entry hentry => exact .inl (irregular_no_point entry (List.mem_of_find?_eq_some hentry))
  next =>
    rcases words_alphanum_or s with hwords | hwords
    · refine .inl fun hpoint => ?_
      obtain ⟨word, hword, c, hc, hsame⟩ := exists_of_mem_join unreached_point hpoint
      rw [hwords word hword c hc] at hsame
      exact absurd hsame (by decide)
    · refine .inr fun hd => ?_
      obtain ⟨word, hword, c, hc, hsame⟩ := exists_of_mem_join unreached_d hd
      rw [hwords word hword c hc] at hsame
      exact absurd hsame (by decide)

end Name

end GoScaffold
