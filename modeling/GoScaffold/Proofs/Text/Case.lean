import GoScaffold.Proofs.Name.Letters

/-! Texts in lower case. Lower case leaves a text in lower case as it is, and never has fewer
characters than the text. A text of letters without capitals beyond ASCII is the lower case of no
text but those with the same letters. -/

namespace GoScaffold.Text

/-! Runs of the case mapping. -/

def CaseRun.low (r : CaseRun) : Nat := (r.first + r.shift).toNat

def CaseRun.high (r : CaseRun) : Nat := (r.last + r.shift).toNat

/-- The other run holds no image of the run, be it that these lie outside of it or between its
codes. -/
def CaseRun.apart (r q : CaseRun) : Bool :=
  match Nat.ble q.first r.high, Nat.ble r.low q.last with
  | true, true =>
    q.stride == 2 && (r.stride == 2 || r.first == r.last) && (r.low + q.first) % 2 == 1
  | _, _ => true

theorem lowerRuns_apart : lowerRuns.all (fun r => lowerRuns.all r.apart) = true := by decide +kernel

theorem lowerRuns_low : ∀ r ∈ lowerRuns, 0x5B ≤ r.first + r.shift ∧ r.Misses 0x130 := by
  decide +kernel

theorem lowerRuns_ascii : ∀ r ∈ lowerRuns, 0x80 ≤ r.first + r.shift ∨ r.first = r.last ∧
    r.low = 0x6B := by
  decide +kernel

section

variable {runs : List CaseRun} {n m : Nat}

theorem exists_of_image?_eq_some (h : CaseRun.image? n runs = some m) :
    ∃ r ∈ runs, (r.first ≤ n ∧ n ≤ r.last ∧ (n - r.first) % r.stride = 0) ∧
      m = Int.toNat (n + r.shift) := by
  induction runs with
  | nil => cases h
  | cons r runs ih =>
    rw [CaseRun.image?] at h
    split at h
    next hheld => exact ⟨r, List.mem_cons_self, hheld, (Option.some.inj h).symm⟩
    next =>
      obtain ⟨q, hq, himage⟩ := ih h
      exact ⟨q, List.mem_cons_of_mem _ hq, himage⟩

theorem not_held_of_apart {r q : CaseRun} (h : r.apart q = true) (hlow : 0 ≤ r.first + r.shift)
    (hr : r.first ≤ n ∧ n ≤ r.last ∧ (n - r.first) % r.stride = 0)
    (hm : m = Int.toNat (n + r.shift)) :
    ¬(q.first ≤ m ∧ m ≤ q.last ∧ (m - q.first) % q.stride = 0) := by
  rintro ⟨hfirst, hlast, hstride⟩
  have hhigh : Nat.ble q.first r.high = true :=
    Nat.ble_eq_true_of_le (by unfold CaseRun.high; omega)
  have hlow' : Nat.ble r.low q.last = true := Nat.ble_eq_true_of_le (by unfold CaseRun.low; omega)
  rw [CaseRun.apart, hhigh, hlow'] at h
  simp only [Bool.and_eq_true, Bool.or_eq_true, beq_iff_eq] at h
  obtain ⟨⟨hq, hsparse⟩, hodd⟩ := h
  unfold CaseRun.low at hodd
  rw [hq] at hstride
  rcases hsparse with hr2 | hsingle
  · rw [hr2] at hr
    omega
  · omega

theorem image?_image? (h : CaseRun.image? n lowerRuns = some m) :
    CaseRun.image? m lowerRuns = none := by
  obtain ⟨r, hr, hheld, hm⟩ := exists_of_image?_eq_some h
  cases himage : CaseRun.image? m lowerRuns with
  | none => rfl
  | some k =>
    obtain ⟨q, hq, hheldq, -⟩ := exists_of_image?_eq_some himage
    have happart := List.all_eq_true.1 (List.all_eq_true.1 lowerRuns_apart r hr) q hq
    have hlow := (lowerRuns_low r hr).1
    exact absurd hheldq (not_held_of_apart happart (by omega) hheld hm)

end

/-! Characters in lower case. -/

section

variable {c d : Char}

theorem toLower_of_toNat_ge (h : 0x5B ≤ c.toNat) : c.toLower = c := by
  refine Char.toLower_eq_of_not_isUpper ?_
  have hlast : 'Z'.val.toNat = 90 := rfl
  have hcode : c.toNat = c.val.toNat := rfl
  unfold Char.isUpper
  simp only [decide_eq_true_eq, UInt32.le_iff_toNat_le, ge_iff_le]
  omega

theorem toNat_toLower_lt (h : c.toNat < 0x80) : c.toLower.toNat < 0x80 := by
  have hcodes : ∀ k < 0x80, (Char.ofNat k).toLower.toNat < 0x80 := by decide
  rw [← Char.ofNat_toNat c]
  exact hcodes c.toNat h

theorem lowerChar_of_image {n m : Nat} (h : CaseRun.image? n lowerRuns = some m) :
    lowerChar (Char.ofNat m) = [Char.ofNat m] := by
  obtain hzero | hpos := Nat.eq_zero_or_pos (Char.ofNat m).toNat
  · rw [← Char.ofNat_toNat (Char.ofNat m), hzero]
    decide
  · have hcode : m = (Char.ofNat m).toNat := eq_of_ofNat_eq hpos rfl
    obtain ⟨r, hr, hheld, hm⟩ := exists_of_image?_eq_some h
    have hlow := (lowerRuns_low r hr).1
    have hdotted : (Char.ofNat m).toNat ≠ 0x130 := by
      rw [← hcode]
      rintro rfl
      exact image?_ne (by decide) (fun q hq => (lowerRuns_low q hq).2) h
    unfold lowerChar
    split_ifs
    · rw [toLower_of_toNat_ge (by omega)]
    · rw [← hcode, image?_image? h]
      rfl

theorem mem_lowerChar_cases (h : d ∈ lowerChar c) :
    (c.toNat < 0x80 ∧ d = c.toLower) ∨ d = 'i' ∨ d = Char.ofNat 0x307 ∨
    (d = c ∧ lowerChar c = [c]) ∨
      ∃ m, CaseRun.image? c.toNat lowerRuns = some m ∧ d = Char.ofNat m := by
  unfold lowerChar at h
  split_ifs at h with hascii hdotted
  · exact .inl ⟨hascii, List.mem_singleton.1 h⟩
  · simp only [List.mem_cons, List.not_mem_nil, or_false] at h
    exact .inr (h.imp_right .inl)
  · have hd := List.mem_singleton.1 h
    cases himage : CaseRun.image? c.toNat lowerRuns with
    | none =>
      rw [himage] at hd
      refine .inr (.inr (.inr (.inl ⟨hd, ?_⟩)))
      rw [lowerChar, if_neg hascii, if_neg hdotted, himage]
      rfl
    | some m =>
      rw [himage] at hd
      exact .inr (.inr (.inr (.inr ⟨m, rfl, hd⟩)))

theorem lowerChar_of_mem (h : d ∈ lowerChar c) : lowerChar d = [d] := by
  rcases mem_lowerChar_cases h with ⟨hascii, rfl⟩ | rfl | rfl | ⟨rfl, hself⟩ | ⟨m, himage, rfl⟩
  · rw [lowerChar, if_pos (toNat_toLower_lt hascii), Char.toLower_toLower_eq_toLower]
  · decide +kernel
  · decide +kernel
  · exact hself
  · exact lowerChar_of_image himage

theorem lowerChar_ne_nil (c : Char) : lowerChar c ≠ [] := by
  unfold lowerChar
  split_ifs <;> exact List.cons_ne_nil _ _

/-- A digit or a letter in lower case that no character beyond ASCII turns into. -/
def Lone (x : Char) : Prop := x.isAlphanum = true ∧ x.toLower = x ∧ x ≠ 'i' ∧ x ≠ 'k'

instance (x : Char) : Decidable (Lone x) := inferInstanceAs (Decidable (_ ∧ _))

theorem Lone.toNat_lt_of_mem_lowerChar (hd : Lone d) (h : d ∈ lowerChar c) : c.toNat < 0x80 := by
  obtain ⟨halphanum, -, hi, hk⟩ := hd
  have hascii := toNat_lt_of_isAlphanum halphanum
  rcases mem_lowerChar_cases h with ⟨hc, -⟩ | rfl | rfl | ⟨rfl, -⟩ | ⟨m, himage, rfl⟩
  · exact hc
  · exact absurd rfl hi
  · exact absurd hascii (by decide)
  · exact hascii
  · have hpos : 0 < (Char.ofNat m).toNat := by
      refine Nat.pos_of_ne_zero fun hzero => ?_
      rw [← Char.ofNat_toNat (Char.ofNat m), hzero] at halphanum
      exact absurd halphanum (by decide)
    have hcode : m = (Char.ofNat m).toNat := eq_of_ofNat_eq hpos rfl
    obtain ⟨r, hr, hheld, hm⟩ := exists_of_image?_eq_some himage
    have hkelvin : m = 0x6B := by
      rcases lowerRuns_ascii r hr with hbeyond | ⟨hsingle, hlow⟩
      · omega
      · unfold CaseRun.low at hlow
        omega
    exact absurd (congrArg Char.ofNat hkelvin) hk

theorem toNat_ne_sigma (h : lowerChar c = [c]) : c.toNat ≠ 0x3A3 := by
  intro hsigma
  rw [← Char.ofNat_toNat c, hsigma] at h
  exact absurd h (by decide +kernel)

end

/-! Texts in lower case. -/

theorem lowerFrom_eq_self {cs : List Char} (h : ∀ c ∈ cs, lowerChar c = [c]) (before : List Char) :
    lowerFrom before cs = cs := by
  induction cs generalizing before with
  | nil => rfl
  | cons c cs ih =>
    rw [List.forall_mem_cons] at h
    rw [lowerFrom, if_neg fun hsigma => toNat_ne_sigma h.1 hsigma.1, h.1, ih h.2]
    rfl

theorem lowerChar_of_mem_lowerFrom {before cs : List Char} {d : Char}
    (h : d ∈ lowerFrom before cs) :
    lowerChar d = [d] := by
  induction cs generalizing before with
  | nil => cases h
  | cons c cs ih =>
    rw [lowerFrom, List.mem_append] at h
    rcases h with h | h
    · split at h
      next =>
        rw [List.mem_singleton.1 h]
        decide +kernel
      next => exact lowerChar_of_mem h
    · exact ih h

theorem lower_lower (s : String) : lower (lower s) = lower s := by
  rw [← String.toList_inj, lower, String.toList_ofList]
  refine lowerFrom_eq_self (fun d hd => ?_) []
  rw [lower, String.toList_ofList] at hd
  exact lowerChar_of_mem_lowerFrom hd

theorem length_le_lowerFrom (before cs : List Char) : cs.length ≤ (lowerFrom before cs).length := by
  induction cs generalizing before with
  | nil => exact Nat.zero_le _
  | cons c cs ih =>
    have hfirst : ∀ ds : List Char, ds ≠ [] →
        (c :: cs).length ≤ (ds ++ lowerFrom (c :: before) cs).length := by
      intro ds hds
      have hpos := List.length_pos_iff.2 hds
      have hrest := ih (c :: before)
      rw [List.length_cons, List.length_append]
      omega
    rw [lowerFrom]
    split_ifs
    · exact hfirst _ (List.cons_ne_nil _ _)
    · exact hfirst _ (lowerChar_ne_nil c)

theorem map_toLower_of_lone {before cs : List Char} (h : ∀ x ∈ lowerFrom before cs, Lone x) :
    cs.map Char.toLower = lowerFrom before cs := by
  induction cs generalizing before with
  | nil => rfl
  | cons c cs ih =>
    rw [lowerFrom] at h ⊢
    rw [List.forall_mem_append] at h
    obtain ⟨hfirst, hrest⟩ := h
    split_ifs at hfirst ⊢ with hsigma
    · exact absurd (hfirst _ (List.mem_singleton_self _)) (by decide)
    · obtain ⟨x, hx⟩ := List.exists_mem_of_ne_nil _ (lowerChar_ne_nil c)
      rw [lowerChar, if_pos ((hfirst x hx).toNat_lt_of_mem_lowerChar hx), List.map_cons, ih hrest]
      rfl

theorem lower_eq_iff {s t : String} (h : ∀ x ∈ t.toList, Lone x) :
    lower s = t ↔ sameLetters s t = true := by
  have hsmall : t.toList.map Char.toLower = t.toList := by
    conv_rhs => rw [← List.map_id t.toList]
    exact List.map_congr_left fun x hx => (h x hx).2.1
  rw [sameLetters, beq_iff_eq, hsmall]
  constructor
  · rintro rfl
    rw [lower, String.toList_ofList] at h ⊢
    exact map_toLower_of_lone h
  · intro hsame
    have hs : Alphanum s.toList :=
      Name.alphanum_of_map_toLower (fun x hx => (h x hx).1) (hsame.trans hsmall.symm)
    rw [← String.toList_inj, toList_lower hs, hsame]

end GoScaffold.Text
