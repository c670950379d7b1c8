import GoScaffold.Name
import GoScaffold.Proofs.Text.Fields

/-! The words of a name, found in one pass. The passes over a name put a blank wherever a word
starts inside a run of letters and digits, so a single look at the characters before and after each
one finds the same words. -/

namespace GoScaffold

namespace Name

/-- A word starts at an upper case letter after a lower case letter or digit, and at the last
upper case letter of a run that continues in lower case. -/
def startsWord (before c : Char) (after : Option Char) : Bool :=
  c.isUpper && (before.isLower || before.isDigit ||
    (before.isUpper && (after.map Char.isLower).getD false))

/-- Splits characters into words. `word` holds the characters of the open word, last first. -/
def wordsFrom (word : List Char) : List Char → List (List Char)
  | [] => if word.isEmpty then [] else [word.reverse]
  | c :: rest =>
    match word with
    | [] => if c.isAlphanum then wordsFrom [c] rest else wordsFrom [] rest
    | last :: _ =>
      if !c.isAlphanum then word.reverse :: wordsFrom [] rest
      else if startsWord last c rest.head? then word.reverse :: wordsFrom [c] rest
      else wordsFrom (c :: word) rest

section

variable {b c d e last : Char} {cs first second word : List Char}

theorem wordsFrom_separated (hc : c.isAlphanum = false) (u cs : List Char) :
    wordsFrom u (c :: cs) = wordsFrom u [] ++ wordsFrom [] cs := by
  cases u with
  | nil =>
    show (if c.isAlphanum then _ else _) = _
    rw [hc]
    rfl
  | cons last u =>
    show (if !c.isAlphanum then _ else _) = _
    rw [hc]
    rfl

theorem wordsFrom_first (hc : c.isAlphanum = true) (cs : List Char) :
    wordsFrom [] (c :: cs) = wordsFrom [c] cs :=
  if_pos hc

theorem wordsFrom_cons (hc : c.isAlphanum = true) :
    wordsFrom (last :: word) (c :: cs) =
      if startsWord last c cs.head? then (last :: word).reverse :: wordsFrom [c] cs
      else wordsFrom (c :: last :: word) cs := by
  rw [wordsFrom, hc]
  rfl

theorem startsWord_of_not_upper (hc : c.isUpper = false) (after : Option Char) :
    startsWord last c after = false := by
  rw [startsWord, hc]
  rfl

theorem isAlphanum_of_mem_wordsFrom {w : List Char} (hword : ∀ c ∈ word, c.isAlphanum = true)
    (hw : w ∈ wordsFrom word cs) : ∀ c ∈ w, c.isAlphanum = true := by
  fun_induction wordsFrom word cs <;> grind

/-! Classes of characters. -/

theorem not_isLower_of_isUpper (h : c.isUpper = true) : c.isLower = false := by
  unfold Char.isUpper at h
  unfold Char.isLower
  grind

theorem not_isUpper_of_isLower (h : c.isLower = true) : c.isUpper = false := by
  cases hupper : c.isUpper with
  | false => rfl
  | true => exact h.symm.trans (not_isLower_of_isUpper hupper)

theorem isAlphanum_eq (c : Char) : c.isAlphanum = (c.isUpper || c.isLower || c.isDigit) := rfl

theorem classes_of_not_isAlphanum (h : c.isAlphanum = false) :
    c.isUpper = false ∧ c.isLower = false ∧ c.isDigit = false := by
  rw [isAlphanum_eq, Bool.or_eq_false_iff, Bool.or_eq_false_iff] at h
  exact ⟨h.1.1, h.1.2, h.2⟩

/-! Blanks by the neighbours of a character. -/

/-- Puts a blank before each character that is to have one, going by the characters before and after
it. -/
def gapped (gap : Char → Char → Option Char → Bool) : (before : Option Char) → List Char → List Char
  | _, [] => []
  | before, c :: rest =>
    if (before.map (gap · c rest.head?)).getD false then ' ' :: c :: gapped gap (some c) rest
    else c :: gapped gap (some c) rest

theorem gapped_none_cons (gap : Char → Char → Option Char → Bool) (c : Char) (cs : List Char) :
    gapped gap none (c :: cs) = c :: gapped gap (some c) cs := rfl

theorem gapped_some_cons (gap : Char → Char → Option Char → Bool) (b c : Char) (cs : List Char) :
    gapped gap (some b) (c :: cs) =
      if gap b c cs.head? then ' ' :: c :: gapped gap (some c) cs
      else c :: gapped gap (some c) cs := rfl

def endsAcronym (before c : Char) (after : Option Char) : Bool :=
  before.isUpper && c.isUpper && (after.map Char.isLower).getD false

def startsHump (before c : Char) (_ : Option Char) : Bool :=
  (before.isLower || before.isDigit) && c.isUpper

theorem gapped_some_of_none {gap : Char → Char → Option Char → Bool}
    (h : ∀ c rest, cs = c :: rest → gap b c rest.head? = false) :
    gapped gap (some b) cs = gapped gap none cs := by
  cases cs with
  | nil => rfl
  | cons c rest => simp [gapped, h c rest rfl]

theorem parted_skip (find : List Char → Option (List Char × List Char)) (skip : Nat)
    (cs : List Char) : parted find skip cs = parted find 0 (cs.drop skip) := by
  induction cs generalizing skip with
  | nil => simp [parted]
  | cons c cs ih =>
    cases skip with
    | zero => rfl
    | succ skip => rw [parted, ih, List.drop_succ_cons]

/-- Blanks inside of what is found are blanks by the neighbours if all that is found has its blank
there, and neighbours between which nothing is found have none. -/
theorem parted_eq_gapped {find : List Char → Option (List Char × List Char)}
    {gap : Char → Char → Option Char → Bool}
    (hfound : ∀ {cs first second}, find cs = some (first, second) → ∃ rest,
      cs = first ++ (second ++ rest) ∧ first ≠ [] ∧
      gapped gap none cs = first ++ ' ' :: (second ++ gapped gap none rest))
    (hnone : ∀ {c d cs}, find (c :: d :: cs) = none → gap c d cs.head? = false) (cs : List Char) :
    parted find 0 cs = gapped gap none cs := by
  -- what follows a found part may be much shorter than the tail, so the induction is on the length
  induction hlength : cs.length using Nat.strongRecOn generalizing cs with
  | ind n ih =>
    cases cs with
    | nil => rfl
    | cons c cs =>
      rw [parted]
      split
      next first second hfind =>
        obtain ⟨rest, hcs, hne, hgapped⟩ := hfound hfind
        obtain ⟨c', first, rfl⟩ := List.exists_cons_of_ne_nil hne
        rw [List.cons_append] at hcs
        obtain ⟨-, rfl⟩ := List.cons.inj hcs
        have hskip : (c' :: first).length + second.length - 1 = (first ++ second).length := by
          rw [List.length_append, List.length_cons]
          omega
        have hshorter : rest.length < n := by
          simp only [List.length_cons, List.length_append] at hlength
          omega
        rw [hgapped, parted_skip, hskip, ← List.append_assoc, List.drop_left,
          ih rest.length hshorter rest rfl]
      next hfind =>
        rw [ih cs.length (by rw [← hlength]; exact Nat.lt_succ_self _) cs rfl, gapped_none_cons]
        refine congrArg (List.cons c) (gapped_some_of_none ?_).symm
        rintro d rest rfl
        exact hnone hfind

/-! Acronyms. -/

theorem acronym?_cons (c : Char) (rest : List Char) : acronym? (c :: rest) =
    if c.isUpper then
      ((acronym? rest).map fun found => (c :: found.1, found.2)).or (acronymEnd? c rest)
    else none := rfl

theorem exists_of_acronymEnd? (h : acronymEnd? c cs = some (first, second)) :
    ∃ d e rest, cs = d :: e :: rest ∧ first = [c] ∧ second = [d, e] ∧ d.isUpper = true ∧
      e.isLower = true := by
  unfold acronymEnd? at h
  split at h
  next d e rest =>
    split_ifs at h with hde
    obtain ⟨rfl, rfl⟩ := Prod.mk.inj (Option.some.inj h)
    rw [Bool.and_eq_true] at hde
    exact ⟨d, e, rest, rfl, rfl, rfl, hde⟩
  next => cases h

theorem exists_of_acronym? (h : acronym? cs = some (first, second)) :
    ∃ d e rest, cs = first ++ d :: e :: rest ∧ second = [d, e] ∧ first ≠ [] ∧
      (∀ c ∈ first, c.isUpper = true) ∧ d.isUpper = true ∧ e.isLower = true := by
  induction cs generalizing first with
  | nil => cases h
  | cons c cs ih =>
    rw [acronym?_cons] at h
    split_ifs at h with hc
    cases hmore : acronym? cs with
    | some found =>
      rw [hmore] at h
      obtain ⟨rfl, rfl⟩ := Prod.mk.inj (Option.some.inj h)
      obtain ⟨d, e, rest, hcs, hsecond, -, hupper, hde⟩ := ih hmore
      exact ⟨d, e, rest, congrArg _ hcs, hsecond, List.cons_ne_nil _ _,
        List.forall_mem_cons.2 ⟨hc, hupper⟩, hde⟩
    | none =>
      rw [hmore] at h
      obtain ⟨d, e, rest, rfl, rfl, rfl, hde⟩ := exists_of_acronymEnd? h
      exact ⟨d, e, rest, rfl, rfl, List.cons_ne_nil _ _, List.forall_mem_singleton.2 hc, hde⟩

theorem endsAcronym_of_acronym?_eq_none (h : acronym? (c :: d :: cs) = none) :
    endsAcronym c d cs.head? = false := by
  rw [acronym?_cons] at h
  split_ifs at h with hc
  · have hend := (Option.or_eq_none_iff.1 h).2
    cases cs with
    | nil => simp [endsAcronym]
    | cons e cs => simpa [endsAcronym, acronymEnd?, hc] using hend
  · simp [endsAcronym, hc]

theorem gapped_endsAcronym_of_not_isUpper (hb : b.isUpper = false) (cs : List Char) :
    gapped endsAcronym (some b) cs = gapped endsAcronym none cs :=
  gapped_some_of_none fun c rest _ => by simp [endsAcronym, hb]

theorem gapped_endsAcronym_append (hb : b.isUpper = true) (hfirst : ∀ c ∈ first, c.isUpper = true)
    (hd : d.isUpper = true) (he : e.isLower = true) (rest : List Char) :
    gapped endsAcronym (some b) (first ++ d :: e :: rest) =
      first ++ ' ' :: d :: e :: gapped endsAcronym none rest := by
  have he' := not_isUpper_of_isLower he
  induction first generalizing b with
  | nil =>
    rw [← gapped_endsAcronym_of_not_isUpper he' rest]
    simp [gapped, endsAcronym, hb, hd, he, he']
  | cons c first ih =>
    rw [List.forall_mem_cons] at hfirst
    have hnext : ((first ++ d :: e :: rest).head?.map Char.isLower).getD false = false := by
      cases first with
      | nil => exact not_isLower_of_isUpper hd
      | cons c' first => exact not_isLower_of_isUpper (hfirst.2 c' List.mem_cons_self)
    have hgap : endsAcronym b c (first ++ d :: e :: rest).head? = false := by
      rw [endsAcronym, hnext, Bool.and_false]
    rw [List.cons_append, gapped, ih hfirst.1 hfirst.2]
    simp only [Option.map_some, Option.getD_some, hgap, Bool.false_eq_true, if_false,
      List.cons_append]

theorem parted_acronym? (cs : List Char) : parted acronym? 0 cs = gapped endsAcronym none cs := by
  refine parted_eq_gapped (fun hfind => ?_) endsAcronym_of_acronym?_eq_none cs
  obtain ⟨d, e, rest, rfl, rfl, hne, hfirst, hd, he⟩ := exists_of_acronym? hfind
  obtain ⟨c, first, rfl⟩ := List.exists_cons_of_ne_nil hne
  rw [List.forall_mem_cons] at hfirst
  refine ⟨rest, rfl, hne, ?_⟩
  rw [List.cons_append, gapped_none_cons, gapped_endsAcronym_append hfirst.1 hfirst.2 hd he]
  rfl

/-! Humps. -/

theorem not_isDigit_of_isUpper (h : c.isUpper = true) : c.isDigit = false := by
  unfold Char.isUpper at h
  unfold Char.isDigit
  grind

theorem exists_of_hump? (h : hump? cs = some (first, second)) :
    ∃ c d rest, cs = c :: d :: rest ∧ first = [c] ∧ second = [d] ∧
      (c.isLower || c.isDigit) = true ∧ d.isUpper = true := by
  unfold hump? at h
  split at h
  next c d rest =>
    split_ifs at h with hcd
    obtain ⟨rfl, rfl⟩ := Prod.mk.inj (Option.some.inj h)
    rw [Bool.and_eq_true] at hcd
    exact ⟨c, d, rest, rfl, rfl, rfl, hcd⟩
  next => cases h

theorem parted_hump? (cs : List Char) : parted hump? 0 cs = gapped startsHump none cs := by
  refine parted_eq_gapped (fun hfind => ?_) (fun hfind => ?_) cs
  · obtain ⟨c, d, rest, rfl, rfl, rfl, hc, hd⟩ := exists_of_hump? hfind
    have hlower := not_isLower_of_isUpper hd
    have hdigit := not_isDigit_of_isUpper hd
    have hrest : gapped startsHump (some d) rest = gapped startsHump none rest :=
      gapped_some_of_none fun c rest _ => by simp [startsHump, hlower, hdigit]
    refine ⟨rest, rfl, List.cons_ne_nil _ _, ?_⟩
    rw [← hrest]
    simp [gapped, startsHump, hc, hd]
  · simpa [hump?, startsHump] using hfind

/-! All blanks together. -/

theorem startsWord_eq (b c : Char) (after : Option Char) :
    startsWord b c after = (endsAcronym b c after || startsHump b c after) := by
  unfold startsWord endsAcronym startsHump
  cases c.isUpper <;> cases b.isUpper <;> cases b.isLower <;> cases b.isDigit <;>
    cases (after.map Char.isLower).getD false <;> rfl

/-- A blank that one pass puts before a word is nothing to the other. -/
theorem gapped_gapped (before : Option Char) (cs : List Char) :
    gapped startsHump before (gapped endsAcronym before cs) = gapped startsWord before cs := by
  have hblank (b : Char) (after : Option Char) : startsHump b ' ' after = false :=
    Bool.and_false _
  have hafter (c : Char) (after : Option Char) : startsHump ' ' c after = false := rfl
  induction cs generalizing before with
  | nil => rfl
  | cons c cs ih =>
    cases before with
    | none => rw [gapped_none_cons, gapped_none_cons, gapped_none_cons, ih]
    | some b =>
      have hhump (after : Option Char) : startsHump b c after = startsHump b c cs.head? := rfl
      rw [gapped_some_cons, gapped_some_cons, startsWord_eq]
      cases endsAcronym b c cs.head? with
      | true => simp [gapped_some_cons, hblank, hafter, ih]
      | false => simp [gapped_some_cons, hhump, ih]

/-! Words between blanks. -/

theorem gapped_startsWord_of_not_isAlphanum (hc : c.isAlphanum = false) (cs : List Char) :
    gapped startsWord (some c) cs = gapped startsWord none cs := by
  obtain ⟨hupper, hlower, hdigit⟩ := classes_of_not_isAlphanum hc
  exact gapped_some_of_none fun d rest _ => by simp [startsWord, hupper, hlower, hdigit]

theorem no_separator_of_alphanum (hword : ∀ c ∈ word, c.isAlphanum = true) :
    ∀ c ∈ word.reverse, (!c.isAlphanum) = false := by
  intro c hc
  rw [hword c (List.mem_reverse.1 hc)]
  rfl

theorem fields_reverse (hword : ∀ c ∈ word, c.isAlphanum = true) :
    Text.fields (!·.isAlphanum) word.reverse = wordsFrom word [] := by
  cases word with
  | nil => rfl
  | cons last word => exact Text.fields_of_none (by simp) (no_separator_of_alphanum hword)

theorem fields_reverse_append (hword : ∀ c ∈ word, c.isAlphanum = true) (hc : c.isAlphanum = false)
    (cs : List Char) : Text.fields (!·.isAlphanum) (word.reverse ++ c :: cs) =
      wordsFrom word [] ++ Text.fields (!·.isAlphanum) cs := by
  cases word with
  | nil => exact Text.fields_cons_sep (by simp [hc]) cs
  | cons last word =>
    exact Text.fields_append_sep (by simp) (no_separator_of_alphanum hword) (by simp [hc]) cs

theorem fields_gapped (hword : ∀ c ∈ word, c.isAlphanum = true) (cs : List Char) :
    Text.fields (!·.isAlphanum) (word.reverse ++ gapped startsWord word.head? cs) =
    wordsFrom word cs := by
  induction cs generalizing word with
  | nil => rw [gapped, List.append_nil, fields_reverse hword]
  | cons c cs ih =>
    cases hc : c.isAlphanum with
    | false =>
      have hgap : gapped startsWord word.head? (c :: cs) = c :: gapped startsWord none cs := by
        rw [← gapped_startsWord_of_not_isAlphanum hc cs]
        cases word with
        | nil => rfl
        | cons last word =>
          rw [List.head?_cons, gapped_some_cons,
            startsWord_of_not_upper (classes_of_not_isAlphanum hc).1, if_neg Bool.false_ne_true]
      rw [hgap, fields_reverse_append hword hc, wordsFrom_separated hc]
      exact congrArg _ (ih (List.forall_mem_nil _))
    | true =>
      cases word with
      | nil =>
        rw [wordsFrom_first hc]
        exact ih (List.forall_mem_singleton.2 hc)
      | cons last word =>
        rw [wordsFrom_cons hc, List.head?_cons, gapped_some_cons]
        cases startsWord last c cs.head? with
        | true =>
          rw [if_pos rfl, if_pos rfl, fields_reverse_append hword (by decide)]
          exact congrArg _ (ih (List.forall_mem_singleton.2 hc))
        | false =>
          have hlonger := ih (List.forall_mem_cons.2 ⟨hc, hword⟩)
          rw [List.reverse_cons, List.append_assoc, List.singleton_append] at hlonger
          exact hlonger

/-! Separators. -/

theorem classes_blankOut (c : Char) : (blankOut c).isAlphanum = c.isAlphanum ∧
    (blankOut c).isLower = c.isLower ∧ (c.isAlphanum = true → blankOut c = c) := by
  unfold blankOut
  split_ifs with h
  · simp only [List.contains_iff_mem, List.mem_cons, List.not_mem_nil, or_false] at h
    rcases h with rfl | rfl | rfl | rfl <;> decide
  · exact ⟨rfl, rfl, fun _ => rfl⟩

theorem wordsFrom_map_blankOut (word cs : List Char) :
    wordsFrom word (cs.map blankOut) = wordsFrom word cs := by
  induction cs generalizing word with
  | nil => rfl
  | cons c cs ih =>
    obtain ⟨halphanum, -, hsame⟩ := classes_blankOut c
    rw [List.map_cons]
    cases hc : c.isAlphanum with
    | false => rw [wordsFrom_separated (halphanum.trans hc), wordsFrom_separated hc, ih]
    | true =>
      rw [hsame hc]
      cases word with
      | nil => rw [wordsFrom_first hc, wordsFrom_first hc, ih]
      | cons last word =>
        have hafter : startsWord last c (cs.map blankOut).head? = startsWord last c cs.head? := by
          cases cs with
          | nil => rfl
          | cons d cs => simp [startsWord, (classes_blankOut d).2.1]
        rw [wordsFrom_cons hc, wordsFrom_cons hc, hafter, ih, ih]

end

/-- The passes over a name find the words that a single look at all characters finds. -/
theorem fields_parted (cs : List Char) :
    Text.fields (!·.isAlphanum) (parted hump? 0 (parted acronym? 0 (cs.map blankOut))) =
    wordsFrom [] cs := by
  rw [parted_acronym?, parted_hump?, gapped_gapped, ← wordsFrom_map_blankOut]
  exact fields_gapped (List.forall_mem_nil _) _

theorem words_eq (s : String) : words s =
    if s.isEmpty then []
    else if wordsFrom [] s.toList = [] then [s] else (wordsFrom [] s.toList).map String.ofList := by
  unfold words
  dsimp only
  rw [fields_parted]
  cases wordsFrom [] s.toList with
  | nil => rfl
  | cons w ws => rfl

end Name

end GoScaffold
