import GoScaffold.Proofs.Name.Words
import GoScaffold.Text.Quoted
import Mathlib.Data.List.TakeWhile

/-! Texts whose braces are well nested. A line is read from its left end with the number of braces
that are open, and what is done to a text on its way into code, such as trimming, quoting or a
change of case, leaves the braces as they are. -/

namespace GoScaffold

namespace Text

/-- The number of open braces after a character within a line. There is none if it closes a brace
that is not open, or ends the line. -/
def step? (c : Char) (n : Nat) : Option Nat :=
  if c = '\x7b' then some (n + 1)
  else if c = '\x7d' then (if n = 0 then none else some (n - 1))
  else if c = '\n' then none
  else some n

def depth? : List Char → Nat → Option Nat
  | [], n => some n
  | c :: cs, n => (step? c n).bind (depth? cs)

/-- Every prefix has no fewer opening braces than closing ones, if `n` are open before, and `m` are
open after the whole. -/
def Nests (n : Nat) (cs : List Char) (m : Nat) : Prop :=
  (∀ p, p <+: cs → p.count '\x7d' ≤ n + p.count '\x7b') ∧ n + cs.count '\x7b' = m + cs.count '\x7d'

def WellNested (cs : List Char) : Prop :=
  (∀ p, p <+: cs → p.count '\x7d' ≤ p.count '\x7b') ∧ cs.count '\x7b' = cs.count '\x7d'

section

variable {a b cs : List Char} {c : Char} {n m k : Nat}

theorem depth?_append : depth? (a ++ b) n = (depth? a n).bind (depth? b) := by
  induction a generalizing n with
  | nil => rfl
  | cons c a ih =>
    rw [List.cons_append, depth?, depth?, Option.bind_assoc]
    exact congrArg _ (funext fun _ => ih)

theorem step?_add (h : step? c n = some m) (k : Nat) : step? c (n + k) = some (m + k) := by
  unfold step? at h ⊢
  split_ifs at h ⊢ <;> simp_all <;> omega

theorem depth?_add (h : depth? cs n = some m) (k : Nat) : depth? cs (n + k) = some (m + k) := by
  induction cs generalizing n with
  | nil =>
    cases h
    rfl
  | cons c cs ih =>
    obtain ⟨l, hstep, hrest⟩ := Option.bind_eq_some_iff.1 h
    exact Option.bind_eq_some_iff.2 ⟨l + k, step?_add hstep k, ih hrest⟩

theorem wellNested_iff : WellNested cs ↔ Nests 0 cs 0 := by
  simp only [WellNested, Nests, Nat.zero_add]

theorem nests_nil : Nests n [] m ↔ n = m := by
  simp [Nests]

theorem Nests.append (ha : Nests n a m) (hb : Nests m b k) : Nests n (a ++ b) k := by
  obtain ⟨halevel, hacount⟩ := ha
  obtain ⟨hblevel, hbcount⟩ := hb
  simp only [Nests, List.count_append]
  refine ⟨fun p hp => ?_, by omega⟩
  rcases List.prefix_or_prefix_of_prefix hp (List.prefix_append a b) with hp | ⟨t, rfl⟩
  · exact halevel p hp
  · have ht := hblevel t ((List.prefix_append_right_inj a).1 hp)
    rw [List.count_append, List.count_append]
    omega

theorem nests_cons_iff : Nests n (c :: cs) m ↔
    (∀ t, t <+: cs → (c :: t).count '\x7d' ≤ n + (c :: t).count '\x7b') ∧
      n + (c :: cs).count '\x7b' = m + (c :: cs).count '\x7d' := by
  refine and_congr_left fun _ => ⟨fun h t ht => h _ ((List.prefix_cons_inj c).2 ht),
    fun h p hp => ?_⟩
  rcases List.prefix_cons_iff.1 hp with rfl | ⟨t, rfl, ht⟩
  · exact Nat.zero_le _
  · exact h t ht

theorem nests_open : Nests n ('\x7b' :: cs) m ↔ Nests (n + 1) cs m := by
  rw [nests_cons_iff]
  simp [Nests, Nat.add_comm, Nat.add_left_comm]

theorem nests_close : Nests (n + 1) ('\x7d' :: cs) m ↔ Nests n cs m := by
  rw [nests_cons_iff]
  simp [Nests, Nat.add_right_comm _ 1, ← Nat.add_assoc]

theorem not_nests_close : ¬Nests 0 ('\x7d' :: cs) m := by
  rintro ⟨h, -⟩
  exact absurd (h ['\x7d'] ⟨cs, rfl⟩) (by decide)

theorem nests_other (hopen : c ≠ '\x7b') (hclose : c ≠ '\x7d') :
    Nests n (c :: cs) m ↔ Nests n cs m := by
  rw [nests_cons_iff]
  simp [Nests, hopen, hclose]

/-- Reading a line with its braces counted succeeds just when the braces nest, and gives their
number. -/
theorem depth?_eq_some_iff : depth? cs n = some m ↔ '\n' ∉ cs ∧ Nests n cs m := by
  induction cs generalizing n with
  | nil => simp [depth?, nests_nil]
  | cons c cs ih =>
    rw [depth?, List.mem_cons, not_or, eq_comm (a := '\n'), and_assoc]
    by_cases hopen : c = '\x7b'
    · subst hopen
      simp [step?, ih, nests_open]
    · by_cases hclose : c = '\x7d'
      · subst hclose
        cases n with
        | zero => simp [step?, not_nests_close]
        | succ n => simp [step?, ih, nests_close]
      · by_cases hend : c = '\n'
        · simp [step?, hend]
        · simp [step?, hopen, hclose, hend, ih, nests_other]

end

def Fits (s : String) : Prop := '\n' ∉ s.toList ∧ WellNested s.toList

theorem fits_iff {s : String} : Fits s ↔ depth? s.toList 0 = some 0 := by
  rw [Fits, wellNested_iff, depth?_eq_some_iff]

instance (s : String) : Decidable (Fits s) := decidable_of_iff _ fits_iff.symm

theorem Fits.depth?_eq {s : String} (h : Fits s) (n : Nat) : depth? s.toList n = some n := by
  have hdepth := depth?_add (fits_iff.1 h) n
  rwa [Nat.zero_add] at hdepth

/-! Characters that are neither a brace nor a line feed. -/

def IsPlain (c : Char) : Prop := c ≠ '\x7b' ∧ c ≠ '\x7d' ∧ c ≠ '\n'

instance (c : Char) : Decidable (IsPlain c) :=
  inferInstanceAs (Decidable (c ≠ '\x7b' ∧ c ≠ '\x7d' ∧ c ≠ '\n'))

section

variable {c d : Char} {cs : List Char} {n m : Nat}

theorem step?_of_plain (h : IsPlain c) : step? c n = some n := by
  rw [step?, if_neg h.1, if_neg h.2.1, if_neg h.2.2]

theorem depth?_singleton : depth? [c] n = step? c n := Option.bind_fun_some _

theorem depth?_of_plain (h : ∀ c ∈ cs, IsPlain c) : depth? cs n = some n := by
  induction cs with
  | nil => rfl
  | cons c cs ih =>
    rw [List.forall_mem_cons] at h
    rw [depth?, step?_of_plain h.1, Option.bind_some, ih h.2]

theorem depth?_flatMap {f : Char → List Char} (h : ∀ c ∈ cs, ∀ n, depth? (f c) n = step? c n) :
    depth? (cs.flatMap f) n = depth? cs n := by
  induction cs generalizing n with
  | nil => rfl
  | cons c cs ih =>
    rw [List.forall_mem_cons] at h
    rw [List.flatMap_cons, depth?_append, h.1, depth?]
    exact congrArg _ (funext fun _ => ih h.2)

theorem isPlain_of_alphanum (h : c.isAlphanum = true) : IsPlain c := by
  refine ⟨?_, ?_, ?_⟩
  all_goals
    rintro rfl
    exact absurd h (by decide)

theorem isPlain_of_le (h : 0x80 ≤ c.toNat) : IsPlain c := by
  refine ⟨?_, ?_, ?_⟩
  all_goals
    rintro rfl
    exact absurd h (by decide)

theorem isPlain_ofNat {k : Nat} (h : k ∉ [0x7B, 0x7D, 0x0A]) : IsPlain (Char.ofNat k) := by
  have hcode : (Char.ofNat k).toNat = k ∨ (Char.ofNat k).toNat = 0 := by
    by_cases hvalid : k.isValidChar
    · exact .inl (congrArg Char.toNat (dif_pos hvalid))
    · exact .inr (congrArg Char.toNat (dif_neg hvalid))
  simp only [List.mem_cons, List.not_mem_nil, or_false, not_or] at h
  refine ⟨fun heq => ?_, fun heq => ?_, fun heq => ?_⟩
  all_goals
    rw [heq] at hcode
    simp only [Char.reduceToNat] at hcode
    omega

end

/-! Trimming. -/

section

variable {cs : List Char} {n m : Nat}

theorem isPlain_of_blank {c : Char} (h : isBlank c = true) (hend : c ≠ '\n') : IsPlain c := by
  refine ⟨?_, ?_, hend⟩
  all_goals
    rintro rfl
    exact absurd h (by decide)

theorem depth?_blank (h : ∀ c ∈ cs, isBlank c = true) (hdepth : depth? cs n = some m) : m = n := by
  have hend := (depth?_eq_some_iff.1 hdepth).1
  rw [depth?_of_plain fun c hc => isPlain_of_blank (h c hc) fun heq => hend (heq ▸ hc)] at hdepth
  exact (Option.some.inj hdepth).symm

theorem exists_trimEndChars (cs : List Char) :
    ∃ b, cs = trimEndChars cs ++ b ∧ ∀ c ∈ b, isBlank c = true := by
  refine ⟨(cs.reverse.takeWhile isBlank).reverse, ?_, fun c hc => ?_⟩
  · rw [trimEndChars, ← List.reverse_append, List.takeWhile_append_dropWhile, List.reverse_reverse]
  · exact List.mem_takeWhile_imp (List.mem_reverse.1 hc)

theorem Fits.trim {s : String} (h : Fits s) : Fits (trim s) := by
  -- only blanks are cut off, at either end, and they leave the number of open braces
  obtain ⟨b, hb, hblank⟩ := exists_trimEndChars (trimStartChars s.toList)
  have hs : s.toList = s.toList.takeWhile isBlank ++ (trimChars s.toList ++ b) := by
    rw [trimChars, ← hb, trimStartChars, List.takeWhile_append_dropWhile]
  rw [fits_iff, hs, depth?_append, Option.bind_eq_some_iff] at h
  obtain ⟨k, hstart, h⟩ := h
  rw [depth?_blank (fun _ => List.mem_takeWhile_imp) hstart, depth?_append, Option.bind_eq_some_iff]
    at h
  obtain ⟨l, htrim, hend⟩ := h
  rw [← depth?_blank hblank hend] at htrim
  rw [fits_iff, Text.trim, String.toList_ofList]
  exact htrim

theorem isBlank_head_trim {s : String} {c : Char} (h : (trim s).toList.head? = some c) :
    isBlank c = false := by
  obtain ⟨b, hb, -⟩ := exists_trimEndChars (trimStartChars s.toList)
  have hstart : (trimStartChars s.toList).head? = some c := by
    rw [Text.trim, String.toList_ofList, trimChars] at h
    rw [hb, List.head?_append, h]
    rfl
  have hnot := List.head?_dropWhile_not isBlank s.toList
  rw [show (s.toList.dropWhile isBlank).head? = some c from hstart] at hnot
  exact hnot

end

/-! Quoting. -/

theorem depth?_hex : ∀ k < 0x80, depth? (hex k) 0 = some 0 := by decide +kernel

theorem depth?_goChar {c : Char} (hc : c ≠ '\n') (n : Nat) : depth? (goChar c) n = step? c n := by
  by_cases hplain : IsPlain c
  · have hhex (h : c.toNat < 0x80) : depth? (hex c.toNat) n = some n := by
      simpa using depth?_add (depth?_hex c.toNat h) n
    rw [step?_of_plain hplain]
    unfold goChar
    split_ifs
    · rfl
    · rfl
    · rfl
    · rfl
    · exact hhex (by omega)
    · exact hhex (by omega)
    · rw [depth?_singleton, step?_of_plain hplain]
  · rw [IsPlain, not_and_or, not_and_or, not_not, not_not, not_not] at hplain
    rcases hplain with rfl | rfl | rfl
    · exact depth?_singleton
    · exact depth?_singleton
    · exact absurd rfl hc

theorem Fits.goQuote {s : String} (h : Fits s) : Fits (goQuote s) := by
  have hinside : depth? (s.toList.flatMap goChar) 0 = some 0 := by
    rw [depth?_flatMap fun c hc => depth?_goChar fun heq => h.1 (heq ▸ hc)]
    exact h.depth?_eq 0
  rw [fits_iff, Text.goQuote, String.toList_ofList, List.cons_append, depth?]
  show depth? (s.toList.flatMap goChar ++ ['"']) 0 = _
  rw [depth?_append, hinside]
  rfl

/-! Case. -/

theorem step?_congr {c d : Char} (h : c = d ∨ (IsPlain c ∧ IsPlain d)) (n : Nat) :
    step? c n = step? d n := by
  rcases h with rfl | ⟨hc, hd⟩
  · rfl
  · rw [step?_of_plain hc, step?_of_plain hd]

theorem toLower_plain : ∀ k < 0x80, (Char.ofNat k).toLower = Char.ofNat k ∨
    (IsPlain (Char.ofNat k).toLower ∧ IsPlain (Char.ofNat k)) := by
  decide +kernel

theorem toUpper_plain : ∀ k < 0x80, (Char.ofNat k).toUpper = Char.ofNat k ∨
    (IsPlain (Char.ofNat k).toUpper ∧ IsPlain (Char.ofNat k)) := by
  decide +kernel

def CaseRun.IsPlain (r : CaseRun) : Prop :=
  0x0A < r.first + r.shift ∧ (r.last + r.shift < 0x7B ∨ 0x7D < r.first + r.shift)

instance (r : CaseRun) : Decidable r.IsPlain :=
  inferInstanceAs (Decidable (0x0A < r.first + r.shift ∧
    (r.last + r.shift < 0x7B ∨ 0x7D < r.first + r.shift)))

theorem lowerRuns_plain : ∀ r ∈ lowerRuns, r.IsPlain := by decide +kernel

theorem upperRuns_plain : ∀ r ∈ upperRuns, r.IsPlain := by decide +kernel

theorem isPlain_image {runs : List CaseRun} (hruns : ∀ r ∈ runs, r.IsPlain) {k m : Nat}
    (h : CaseRun.image? k runs = some m) : IsPlain (Char.ofNat m) := by
  induction runs with
  | nil => cases h
  | cons r runs ih =>
    rw [List.forall_mem_cons] at hruns
    rw [CaseRun.image?] at h
    split at h
    next hheld =>
      obtain ⟨hlow, hhigh⟩ := hruns.1
      cases h
      refine isPlain_ofNat ?_
      simp only [List.mem_cons, List.not_mem_nil, or_false, not_or]
      omega
    next => exact ih hruns.2 h

theorem step?_image {runs : List CaseRun} (hruns : ∀ r ∈ runs, r.IsPlain) {c : Char}
    (hc : IsPlain c)
    (n : Nat) : step? (((CaseRun.image? c.toNat runs).map Char.ofNat).getD c) n = some n := by
  refine step?_of_plain ?_
  cases himage : CaseRun.image? c.toNat runs with
  | none => exact hc
  | some m => exact isPlain_image hruns himage

theorem depth?_lowerChar (c : Char) (n : Nat) : depth? (lowerChar c) n = step? c n := by
  unfold lowerChar
  split_ifs with hascii hdotted
  · have hlower := toLower_plain c.toNat hascii
    rw [Char.ofNat_toNat] at hlower
    rw [depth?_singleton, step?_congr hlower]
  · rw [step?_of_plain (isPlain_of_le (by omega))]
    rfl
  · have hc : IsPlain c := isPlain_of_le (by omega)
    rw [depth?_singleton, step?_image lowerRuns_plain hc, step?_of_plain hc]

theorem upperExpansions_plain : ∀ e ∈ upperExpansions, ∀ k ∈ e.2, k ∉ [0x7B, 0x7D, 0x0A] := by
  decide +kernel

theorem depth?_upperChar (c : Char) (n : Nat) : depth? (upperChar c) n = step? c n := by
  unfold upperChar
  split
  next hascii =>
    have hupper := toUpper_plain c.toNat hascii
    rw [Char.ofNat_toNat] at hupper
    rw [depth?_singleton, step?_congr hupper]
  next hbeyond =>
    have hc : IsPlain c := isPlain_of_le (by omega)
    rw [step?_of_plain hc]
    split
    next ks hks =>
      obtain ⟨before, after, htable, -⟩ := List.lookup_eq_some_iff.1 hks
      have hmem : (c.toNat, ks) ∈ upperExpansions :=
        htable ▸ List.mem_append_right _ List.mem_cons_self
      refine depth?_of_plain (List.forall_mem_map.2 fun k hk => ?_)
      exact isPlain_ofNat (upperExpansions_plain _ hmem k hk)
    next => rw [depth?_singleton, step?_image upperRuns_plain hc]

theorem depth?_lowerFrom (before cs : List Char) (n : Nat) :
    depth? (lowerFrom before cs) n = depth? cs n := by
  induction cs generalizing before n with
  | nil => rfl
  | cons c cs ih =>
    have hfirst : depth? (if c.toNat = 0x3A3 ∧ startsCased before ∧
        ¬startsCased cs then [Char.ofNat 0x3C2]
        else lowerChar c) n = step? c n := by
      split
      next hsigma =>
        rw [step?_of_plain (isPlain_of_le (by omega))]
        rfl
      next => exact depth?_lowerChar c n
    rw [lowerFrom, depth?_append, hfirst, depth?]
    exact congrArg _ (funext fun _ => ih _ _)

theorem Fits.lower {s : String} (h : Fits s) : Fits (lower s) := by
  rw [fits_iff, Text.lower, String.toList_ofList, depth?_lowerFrom]
  exact h.depth?_eq 0

theorem Fits.upper {s : String} (h : Fits s) : Fits (upper s) := by
  rw [fits_iff, Text.upper, String.toList_ofList, depth?_flatMap fun c _ => depth?_upperChar c]
  exact h.depth?_eq 0

theorem Fits.upperFirst {s : String} (h : Fits s) : Fits (upperFirst s) := by
  have hdepth := h.depth?_eq 0
  unfold Text.upperFirst
  split
  · decide
  next c rest hs =>
    rw [fits_iff, String.toList_ofList, depth?_append, depth?_upperChar]
    rwa [hs, depth?] at hdepth

/-! Texts joined from parts, and texts of numbers. -/

theorem fits_append {s t : String} (hs : Fits s) (ht : Fits t) : Fits (s ++ t) := by
  rw [fits_iff, String.toList_append, depth?_append, hs.depth?_eq]
  exact ht.depth?_eq 0

theorem fits_join {ss : List String} (h : ∀ s ∈ ss, Fits s) : Fits (String.join ss) := by
  induction ss with
  | nil => decide
  | cons s ss ih =>
    rw [List.forall_mem_cons] at h
    rw [String.join_cons]
    exact fits_append h.1 (ih h.2)

theorem fits_ofList_of_plain {cs : List Char} (h : ∀ c ∈ cs, IsPlain c) :
    Fits (String.ofList cs) := by
  rw [fits_iff, String.toList_ofList]
  exact depth?_of_plain h

theorem fits_repr (k : Nat) : Fits k.repr := by
  rw [fits_iff, Nat.toList_repr]
  refine depth?_of_plain fun c hc => isPlain_of_alphanum ?_
  rw [Char.isAlphanum, Nat.isDigit_of_mem_toDigits (by decide) (by decide) hc, Bool.or_true]

theorem fits_toString (k : Int) : Fits (toString k) := by
  cases k with
  | ofNat k => exact fits_repr k
  | negSucc k => exact fits_append (s := "-") (by decide) (fits_repr (k + 1))

end Text

namespace Name

open Text

theorem fits_exportWord {word : String} (h : Fits word) : Fits (exportWord word) := by
  unfold exportWord
  dsimp only
  split
  · exact h.upper
  · exact h.lower.upperFirst

theorem fits_words {s word : String} (h : Fits s) (hword : word ∈ words s) : Fits word := by
  rw [words_eq] at hword
  split_ifs at hword
  · cases hword
  · rwa [List.mem_singleton.1 hword]
  · obtain ⟨w, hw, rfl⟩ := List.mem_map.1 hword
    exact fits_ofList_of_plain fun c hc =>
      isPlain_of_alphanum (isAlphanum_of_mem_wordsFrom (List.forall_mem_nil _) hw c hc)

theorem fits_irregular : ∀ entry ∈ irregular, Fits entry.2 := by decide

theorem fits_exported {s : String} (h : Fits s) : Fits (exported s) := by
  unfold exported
  split
  next entry hentry => exact fits_irregular entry (List.mem_of_find?_eq_some hentry)
  next =>
    refine fits_join (List.forall_mem_map.2 fun word hword => ?_)
    exact fits_exportWord (fits_words h hword)

end Name

end GoScaffold
