import GoScaffold.Model.Projection
import GoScaffold.Proofs.Name.Letters

/-! Exported names that are exported again. An exported name has no separators any more, so its
words are found by the case of its letters alone: exported words that no word boundary is seen
between run together into one word. The name is left as it is exactly if none of these runs is
respelled. -/

namespace GoScaffold

namespace Name

open Text

/-! Runs of words. -/

def runsOn (before text : String) : Bool :=
  match before.toList.getLast?, text.toList with
  | some last, c :: rest => !startsWord last c rest.head?
  | _, _ => false

def runsFrom (run : String) : List String → List String
  | [] => [run]
  | text :: rest =>
    if runsOn run text then runsFrom (run ++ text) rest else run :: runsFrom text rest

def runs : List String → List String
  | [] => []
  | text :: rest => runsFrom text rest

/-- The first character is the only one that may be in upper case, or all are. -/
def HasCase (cs : List Char) : Prop :=
  (∀ c ∈ cs.tail, c.isUpper = false) ∨ ∀ c ∈ cs, c.isUpper = true

instance (cs : List Char) : Decidable (HasCase cs) :=
  @instDecidableOr _ _ (List.decidableBAll _ _) (List.decidableBAll _ _)

structure IsPart (cs : List Char) : Prop where
  alphanum : Alphanum cs
  ne_nil : cs ≠ []
  head : ∀ c ∈ cs.head?, c.isLower = false
  hasCase : HasCase cs

section

variable {c last : Char} {word cs rest : List Char}

theorem isDigit_of_isUpper (h : c.isUpper = true) : c.isDigit = false := by
  unfold Char.isUpper at h
  unfold Char.isDigit
  simp only [decide_eq_true_eq, UInt32.le_iff_toNat_le, ge_iff_le] at h
  have hcodes : 'A'.val.toNat = 65 ∧ '9'.val.toNat = 57 := ⟨rfl, rfl⟩
  rw [Bool.and_eq_false_iff, decide_eq_false_iff_not, decide_eq_false_iff_not,
    UInt32.le_iff_toNat_le, ge_iff_le, UInt32.le_iff_toNat_le]
  omega

theorem startsWord_of_upper (hlast : last.isUpper = true) {after : Option Char}
    (hafter : ∀ d ∈ after, d.isLower = false) : startsWord last c after = false := by
  have hlower : last.isLower = false := Bool.eq_false_iff.2 (Char.not_isLower_of_isUpper hlast)
  have hnext : (after.map Char.isLower).getD false = false := by
    cases after with
    | none => rfl
    | some d => exact hafter d rfl
  rw [startsWord, hlower, isDigit_of_isUpper hlast, hnext, Bool.and_false, Bool.or_false,
    Bool.or_false, Bool.and_false]

theorem wordsFrom_append (hcs : Alphanum cs)
    (hupper : HasCase (last :: cs))
    (hrest : ∀ d ∈ rest.head?, d.isLower = false) :
    wordsFrom (last :: word) (cs ++ rest) = wordsFrom (cs.reverse ++ last :: word) rest := by
  induction cs generalizing last word with
  | nil => rfl
  | cons c cs ih =>
    have hstarts : startsWord last c (cs ++ rest).head? = false := by
      rcases hupper with hnone | hall
      · exact startsWord_of_not_upper (hnone c List.mem_cons_self) _
      · refine startsWord_of_upper (hall last List.mem_cons_self) fun d hd => ?_
        cases cs with
        | nil => exact hrest d hd
        | cons d cs =>
          cases hd
          exact Bool.eq_false_iff.2 (Char.not_isLower_of_isUpper (hall d (by simp)))
    have hnext := @ih c (last :: word) hcs.tail
      (hupper.imp (fun h d hd => h d (List.mem_cons_of_mem _ hd)) fun h d hd =>
        h d (List.mem_cons_of_mem _ hd))
    rw [List.cons_append, wordsFrom_cons (hcs c List.mem_cons_self), hstarts,
      if_neg Bool.false_ne_true, hnext, List.reverse_cons, List.append_assoc]
    rfl

theorem startsWord_append (hrest : ∀ d ∈ rest.head?, d.isLower = false) :
    startsWord last c (cs ++ rest).head? = startsWord last c cs.head? := by
  cases cs with
  | nil =>
    have hnext : (rest.head?.map Char.isLower).getD false = false := by
      cases hd : rest.head? with
      | none => rfl
      | some d => exact hrest d hd
    rw [List.nil_append, startsWord, hnext]
    rfl
  | cons d cs => rfl

end

/-! The words of an exported name. -/

theorem hasCase_initialisms : ∀ word ∈ initialisms, HasCase word.toList := by decide

theorem isPart_exportWord {word : String} (h : Alphanum word.toList) (hne : word ≠ "") :
    IsPart (exportWord word).toList := by
  have hrespells := respells_exportWord h
  refine ⟨alphanum_of_map_toLower h hrespells.lower, ?_, ?_, ?_⟩
  · intro hnil
    have hlower := hrespells.lower
    rw [hnil, List.map_nil, eq_comm, List.map_eq_nil_iff, String.toList_eq_nil_iff] at hlower
    exact hne hlower
  · rw [hrespells.head]
    intro c hc
    obtain ⟨d, -, rfl⟩ := Option.map_eq_some_iff.1 hc
    exact Char.isLower_toUpper_eq_false d
  · rw [toList_exportWord h]
    split_ifs with hinitialism
    · rw [← toList_upper h]
      exact hasCase_initialisms _ hinitialism
    · refine .inl ?_
      cases word.toList with
      | nil => exact List.forall_mem_nil _
      | cons c cs => exact List.forall_mem_map.2 fun d _ => Char.isUpper_toLower_eq_false d

theorem head?_flatMap_not_lower {parts : List String} (hparts : ∀ p ∈ parts, IsPart p.toList) :
    ∀ c ∈ (parts.flatMap String.toList).head?, c.isLower = false := by
  cases parts with
  | nil => exact fun c hc => nomatch hc
  | cons p parts =>
    have hp := hparts p List.mem_cons_self
    obtain ⟨c, cs, hcs⟩ := List.exists_cons_of_ne_nil hp.ne_nil
    have hhead := hp.head
    rw [hcs] at hhead
    rw [List.flatMap_cons, hcs]
    exact hhead

theorem runsOn_eq {run p : String} {last c : Char} {word cs : List Char}
    (hrun : run.toList.reverse = last :: word)
    (hp : p.toList = c :: cs) : runsOn run p = !startsWord last c cs.head? := by
  have hlast : run.toList.getLast? = some last := by
    rw [List.getLast?_eq_head?_reverse, hrun]
    rfl
  unfold runsOn
  rw [hlast, hp]

/-- The words of a text that is joined from parts are the runs of parts. -/
theorem wordsFrom_flatMap {parts : List String} (hparts : ∀ p ∈ parts, IsPart p.toList)
    {run : String}
    (hrun : run ≠ "") :
    (wordsFrom run.toList.reverse (parts.flatMap String.toList)).map String.ofList =
    runsFrom run parts := by
  induction parts generalizing run with
  | nil =>
    have hne : run.toList.reverse.isEmpty = false := by simpa using hrun
    simp [wordsFrom, runsFrom, hne]
  | cons p parts ih =>
    rw [List.forall_mem_cons] at hparts
    obtain ⟨hp, hparts⟩ := hparts
    obtain ⟨last, word, hword⟩ : ∃ last word, run.toList.reverse = last :: word :=
      List.exists_cons_of_ne_nil (by simpa using hrun)
    obtain ⟨c, cs, hcs⟩ := List.exists_cons_of_ne_nil hp.ne_nil
    have hrest := head?_flatMap_not_lower hparts
    obtain ⟨halphanum, hne, hhead, hupper⟩ := hp
    rw [hcs] at halphanum hupper
    have hpass (before : List Char) : wordsFrom (c :: before) (cs ++ parts.flatMap String.toList) =
        wordsFrom (p.toList.reverse ++ before) (parts.flatMap String.toList) := by
      rw [wordsFrom_append halphanum.tail hupper hrest, hcs, List.reverse_cons, List.append_assoc]
      rfl
    rw [List.flatMap_cons, hcs, List.cons_append, hword,
      wordsFrom_cons (halphanum c List.mem_cons_self), startsWord_append hrest, runsFrom,
      runsOn_eq hword hcs]
    cases startsWord last c cs.head? with
    | true =>
      -- the run ends, and the part begins the next one
      rw [if_pos rfl, if_neg (by decide), List.map_cons, ← hword, List.reverse_reverse,
        String.ofList_toList, hpass, List.append_nil]
      rw [ih hparts (by rintro rfl; cases hcs)]
    | false =>
      rw [if_neg (by decide), if_pos (by decide), hpass, ← hword, ← List.reverse_append,
        ← String.toList_append]
      exact ih hparts (by simp [hrun])

theorem words_join {parts : List String} (hparts : ∀ p ∈ parts, IsPart p.toList)
    (hne : parts ≠ []) :
    words (String.join parts) = runs parts := by
  cases parts with
  | nil => exact absurd rfl hne
  | cons p parts =>
    rw [List.forall_mem_cons] at hparts
    obtain ⟨hp, hparts⟩ := hparts
    obtain ⟨c, cs, hcs⟩ := List.exists_cons_of_ne_nil hp.ne_nil
    have hc : c.isAlphanum = true := hp.alphanum c (hcs ▸ List.mem_cons_self)
    have hrest := head?_flatMap_not_lower hparts
    have htext : (String.join (p :: parts)).toList = c :: (cs ++ parts.flatMap String.toList) := by
      rw [String.toList_join, List.flatMap_cons, hcs, List.cons_append]
    have hfirst : wordsFrom [] (String.join (p :: parts)).toList =
        wordsFrom p.toList.reverse (parts.flatMap String.toList) := by
      have hupper := hp.hasCase
      have halphanum := hp.alphanum
      rw [hcs] at hupper halphanum
      rw [htext, wordsFrom, if_pos hc, wordsFrom_append halphanum.tail hupper hrest, hcs,
        List.reverse_cons]
    rw [words_eq_map ⟨c, htext ▸ List.mem_cons_self, hc⟩, hfirst]
    exact wordsFrom_flatMap hparts (by rintro rfl; cases hcs)

/-! Names that stay as they are. -/

def Capitalized (cs : List Char) : Prop :=
  (∀ c ∈ cs.head?, c.isLower = false) ∧ ∀ c ∈ cs.tail, c.isUpper = false

instance (cs : List Char) : Decidable (Capitalized cs) :=
  @instDecidableAnd _ _ (Option.decidableForallMem _) (List.decidableBAll _ _)

/-- A word in the case that exported names give it. -/
def Settled (word : String) : Prop :=
  if upper word ∈ initialisms then word ∈ initialisms else Capitalized word.toList

instance (word : String) : Decidable (Settled word) :=
  inferInstanceAs (Decidable (if upper word ∈ initialisms then word ∈ initialisms
    else Capitalized word.toList))

theorem toUpper_eq_self_iff {c : Char} : c.toUpper = c ↔ c.isLower = false := by
  constructor
  · intro h
    rw [← h]
    exact Char.isLower_toUpper_eq_false c
  · exact fun h => Char.toUpper_eq_of_not_isLower (Bool.eq_false_iff.1 h)

theorem toLower_eq_self_iff {c : Char} : c.toLower = c ↔ c.isUpper = false := by
  constructor
  · intro h
    rw [← h]
    exact Char.isUpper_toLower_eq_false c
  · exact fun h => Char.toLower_eq_of_not_isUpper (Bool.eq_false_iff.1 h)

theorem capital_eq_self_iff {cs : List Char} : capital cs = cs ↔ Capitalized cs := by
  cases cs with
  | nil => simp [capital, Capitalized]
  | cons c cs =>
    have htail : cs.map Char.toLower = cs ↔ ∀ d ∈ cs, d.isUpper = false := by
      nth_rewrite 2 [← List.map_id cs]
      rw [List.map_inj_left]
      exact forall₂_congr fun d _ => toLower_eq_self_iff
    rw [capital, List.cons.injEq, toUpper_eq_self_iff, htail]
    simp [Capitalized]

theorem upper_initialisms : ∀ word ∈ initialisms, upper word = word := by decide +kernel

theorem exportWord_eq_self_iff {word : String} (h : Alphanum word.toList) :
    exportWord word = word ↔ Settled word := by
  rw [← String.toList_inj, toList_exportWord h, Settled]
  split_ifs with hinitialism
  · rw [← toList_upper h, String.toList_inj]
    constructor
    · exact fun hsame => hsame ▸ hinitialism
    · exact upper_initialisms word
  · exact capital_eq_self_iff

theorem join_map_eq_iff {words : List String} (h : ∀ word ∈ words, Alphanum word.toList) :
    String.join (words.map exportWord) = String.join words ↔ ∀ word ∈ words, Settled word := by
  induction words with
  | nil => simp
  | cons word words ih =>
    rw [List.forall_mem_cons] at h
    have hlength : (exportWord word).toList.length = word.toList.length := by
      have hlower := congrArg List.length (respells_exportWord h.1).lower
      rwa [List.length_map, List.length_map] at hlower
    rw [List.forall_mem_cons, ← ih h.2, ← exportWord_eq_self_iff h.1, List.map_cons,
      String.join_cons, String.join_cons]
    constructor
    · intro hsame
      rw [← String.toList_inj, String.toList_append, String.toList_append] at hsame
      obtain ⟨hword, hwords⟩ := List.append_inj hsame hlength
      exact ⟨String.toList_inj.1 hword, String.toList_inj.1 hwords⟩
    · rintro ⟨hword, hwords⟩
      rw [hword, hwords]

section

variable {s : String} {entry : String × String}

theorem irregular_inj : ∀ a ∈ irregular, ∀ b ∈ irregular,
    a.1.toList.map Char.toLower = b.1.toList.map Char.toLower → a = b := by decide

theorem exported_of_irregular (hentry : entry ∈ irregular) (h : sameLetters s entry.1 = true) :
    exported s = entry.2 := by
  unfold exported
  split
  next found hfound =>
    have hsame := List.find?_some hfound
    have hfirst := (beq_iff_eq.1 hsame).symm.trans (beq_iff_eq.1 h)
    rw [irregular_inj found (List.mem_of_find?_eq_some hfound) entry hentry hfirst]
  next hnone => exact absurd h (by simpa using List.find?_eq_none.1 hnone entry hentry)

theorem exported_of_regular (h : ∀ entry ∈ irregular, sameLetters s entry.1 = false) :
    exported s = String.join ((words s).map exportWord) := by
  have hnone : irregular.find? (fun entry => sameLetters s entry.1) = none :=
    List.find?_eq_none.2 fun entry hentry => by simp [h entry hentry]
  unfold exported
  rw [hnone]

theorem alphanum_of_sameLetters (hentry : entry ∈ irregular) (h : sameLetters s entry.1 = true) :
    Alphanum s.toList :=
  alphanum_of_map_toLower (alphanum_irregular entry hentry) (beq_iff_eq.1 h)

theorem sameLetters_exported (h : ∃ c ∈ s.toList, c.isAlphanum = true) (text : String) :
    sameLetters (exported s) text = sameLetters (letters s) text := by
  unfold sameLetters
  rw [(respells_exported h).lower]

theorem alphanum_exported (h : ∃ c ∈ s.toList, c.isAlphanum = true) :
    Alphanum (exported s).toList :=
  alphanum_of_map_toLower (alphanum_letters s) (respells_exported h).lower

theorem letters_ne_nil (h : ∃ c ∈ s.toList, c.isAlphanum = true) : (letters s).toList ≠ [] := by
  obtain ⟨c, hc⟩ := h
  rw [letters, String.toList_ofList]
  exact List.ne_nil_of_mem (List.mem_filter.2 hc)

theorem exported_ne_nil (h : ∃ c ∈ s.toList, c.isAlphanum = true) : (exported s).toList ≠ [] := by
  intro hnil
  have hlower := (respells_exported h).lower
  rw [hnil, List.map_nil, eq_comm, List.map_eq_nil_iff] at hlower
  exact letters_ne_nil h hlower

theorem words_ne_nil (h : ∃ c ∈ s.toList, c.isAlphanum = true) : words s ≠ [] := by
  intro hnil
  have hjoin := join_words h
  rw [hnil] at hjoin
  exact letters_ne_nil h (hjoin ▸ rfl)

theorem some_or_none_alphanum (s : String) :
    (∃ c ∈ s.toList, c.isAlphanum = true) ∨ ∀ c ∈ s.toList, c.isAlphanum = false := by
  by_cases h : ∃ c ∈ s.toList, c.isAlphanum = true
  · exact .inl h
  · exact .inr fun c hc => Bool.eq_false_iff.2 fun hletter => h ⟨c, hc, hletter⟩

theorem not_none_of_some_alphanum (hsome : ∃ c ∈ s.toList, c.isAlphanum = true) :
    ¬∀ c ∈ s.toList, c.isAlphanum = false := by
  intro hnone
  obtain ⟨c, hc, hletter⟩ := hsome
  rw [hnone c hc] at hletter
  cases hletter

theorem some_alphanum (h : Alphanum s.toList) (hne : s.toList ≠ []) :
    ∃ c ∈ s.toList, c.isAlphanum = true := by
  obtain ⟨c, hc⟩ := List.exists_mem_of_ne_nil _ hne
  exact ⟨c, hc, h c hc⟩

theorem words_bare (h : ∀ c ∈ s.toList, c.isAlphanum = false) (hs : s ≠ "") : words s = [s] := by
  have hnone : wordsFrom [] s.toList = [] := by
    have hletters : (wordsFrom [] s.toList).flatten = [] := by
      rw [flatten_wordsFrom]
      simpa using h
    exact List.eq_nil_iff_forall_not_mem.2 fun w hw =>
      ne_nil_of_mem_wordsFrom hw (List.flatten_eq_nil_iff.1 hletters w hw)
  rw [words_eq, if_neg (by simpa using hs), if_pos hnone]

theorem exported_bare (h : ∀ c ∈ s.toList, c.isAlphanum = false) : exported s = exportWord s := by
  by_cases hs : s = ""
  · subst hs
    decide
  have hregular : ∀ entry ∈ irregular, sameLetters s entry.1 = false := by
    intro entry hentry
    refine Bool.eq_false_iff.2 fun hsame => ?_
    have hsome :=
      some_alphanum (alphanum_of_sameLetters hentry hsame) (mt String.toList_eq_nil_iff.1 hs)
    exact not_none_of_some_alphanum hsome h
  rw [exported_of_regular hregular, words_bare h hs]
  simp

end

section

variable {s : String}

theorem exported_eq_self_iff_of_some (hsome : ∃ c ∈ s.toList, c.isAlphanum = true)
    (hregular : ∀ entry ∈ irregular, sameLetters s entry.1 = false) :
    exported s = s ↔ Alphanum s.toList ∧ ∀ word ∈ words s, Settled word := by
  have hwords : ∀ word ∈ words s, Alphanum word.toList := fun _ => alphanum_of_mem_words hsome
  have hjoin (halphanum : Alphanum s.toList) : String.join (words s) = s := by
    rw [join_words hsome, ← String.toList_inj, toList_letters_of_alphanum halphanum]
  constructor
  · intro hself
    have halphanum : Alphanum s.toList := hself ▸ alphanum_exported hsome
    refine ⟨halphanum, (join_map_eq_iff hwords).1 ?_⟩
    rw [← exported_of_regular hregular, hself, hjoin halphanum]
  · rintro ⟨halphanum, hsettled⟩
    rw [exported_of_regular hregular, (join_map_eq_iff hwords).2 hsettled, hjoin halphanum]

def Kept (s : String) : Prop :=
  (∃ entry ∈ irregular, s = entry.2) ∨
    (∀ entry ∈ irregular, sameLetters s entry.1 = false) ∧
      (Alphanum s.toList ∧ (∀ word ∈ words s, Settled word) ∨
        (∀ c ∈ s.toList, c.isAlphanum = false) ∧ exportWord s = s)

theorem exported_irregular {entry : String × String} (hentry : entry ∈ irregular) :
    exported entry.2 = entry.2 :=
  exported_of_irregular hentry (beq_iff_eq.2 (respells_irregular entry hentry).1)

theorem kept_of_exported_eq_self (hself : exported s = s) : Kept s := by
  by_cases hirregular : ∃ entry ∈ irregular, sameLetters s entry.1 = true
  · obtain ⟨entry, hentry, hsame⟩ := hirregular
    exact .inl ⟨entry, hentry, hself.symm.trans (exported_of_irregular hentry hsame)⟩
  · have hregular : ∀ entry ∈ irregular, sameLetters s entry.1 = false :=
      fun entry hentry => Bool.eq_false_iff.2 fun h => hirregular ⟨entry, hentry, h⟩
    refine .inr ⟨hregular, ?_⟩
    rcases some_or_none_alphanum s with hsome | hnone
    · exact .inl ((exported_eq_self_iff_of_some hsome hregular).1 hself)
    · exact .inr ⟨hnone, (exported_bare hnone).symm.trans hself⟩

theorem exported_eq_self_of_kept (h : Kept s) : exported s = s := by
  rcases h with ⟨entry, hentry, rfl⟩ | ⟨hregular, ⟨halphanum, hsettled⟩ | ⟨hnone, hself⟩⟩
  · exact exported_irregular hentry
  · rcases some_or_none_alphanum s with hsome | hnone
    · exact (exported_eq_self_iff_of_some hsome hregular).2 ⟨halphanum, hsettled⟩
    · have hempty : s = "" := by
        by_contra hs
        exact not_none_of_some_alphanum
          (some_alphanum halphanum (mt String.toList_eq_nil_iff.1 hs)) hnone
      rw [hempty]
      decide
  · exact (exported_bare hnone).trans hself

theorem exported_eq_self_iff : exported s = s ↔ Kept s :=
  ⟨kept_of_exported_eq_self, exported_eq_self_of_kept⟩

/-! Names that are exported twice. -/

/-- The name is exported to an irregular spelling, or its exported words are settled also where they
run together. -/
def Stays (s : String) : Prop :=
  (∃ entry ∈ irregular, exported s = entry.2) ∨
    (∀ entry ∈ irregular, sameLetters (letters s) entry.1 = false) ∧
      ∀ run ∈ runs ((words s).map exportWord), Settled run

theorem words_exported (hsome : ∃ c ∈ s.toList, c.isAlphanum = true)
    (hregular : ∀ entry ∈ irregular, sameLetters (letters s) entry.1 = false) :
    words (exported s) = runs ((words s).map exportWord) := by
  have hname : ∀ entry ∈ irregular, sameLetters s entry.1 = false := by
    intro entry hentry
    refine Bool.eq_false_iff.2 fun hsame => ?_
    have hletters := toList_letters_of_alphanum (alphanum_of_sameLetters hentry hsame)
    have hnot := hregular entry hentry
    rw [String.toList_inj.1 hletters, hsame] at hnot
    cases hnot
  rw [exported_of_regular hname]
  refine words_join ?_ (by simpa using words_ne_nil hsome)
  refine List.forall_mem_map.2 fun word hword => ?_
  exact isPart_exportWord (alphanum_of_mem_words hsome hword) (ne_empty_of_mem_words hsome hword)

theorem kept_exported_iff (hsome : ∃ c ∈ s.toList, c.isAlphanum = true) :
    Kept (exported s) ↔ Stays s := by
  have halphanum := alphanum_exported hsome
  have hletters := some_alphanum halphanum (exported_ne_nil hsome)
  unfold Kept Stays
  simp only [sameLetters_exported hsome]
  refine or_congr_right (and_congr_right fun hregular => ?_)
  rw [words_exported hsome hregular]
  constructor
  · rintro (⟨-, hsettled⟩ | ⟨hnone, -⟩)
    · exact hsettled
    · exact absurd hnone (not_none_of_some_alphanum hletters)
  · exact fun hsettled => .inl ⟨halphanum, hsettled⟩

end

/-- Exporting a name again changes it unless all runs of its exported words are settled. -/
theorem exported_exported_iff (s : String) :
    exported (exported s) = exported s ↔
      (∃ c ∈ s.toList, c.isAlphanum = true) ∧ Stays s ∨
        (∀ c ∈ s.toList, c.isAlphanum = false) ∧ Kept (exportWord s) := by
  rw [exported_eq_self_iff]
  rcases some_or_none_alphanum s with hsome | hnone
  · rw [kept_exported_iff hsome]
    constructor
    · exact fun hstays => .inl ⟨hsome, hstays⟩
    · rintro (⟨-, hstays⟩ | ⟨hnone, -⟩)
      · exact hstays
      · exact absurd hnone (not_none_of_some_alphanum hsome)
  · rw [exported_bare hnone]
    constructor
    · exact fun hkept => .inr ⟨hnone, hkept⟩
    · rintro (⟨hsome, -⟩ | ⟨-, hkept⟩)
      · exact absurd hnone (not_none_of_some_alphanum hsome)
      · exact hkept

def reading (entity : String) : Schema where
  services := [{ name := "Gateway", methods := [{ name := "Connect", sources := [{ entity }] }] }]

/-- The digit runs on from the initialism, which is none with it. A service asks for the repository
of an entity under the name that it is exported to twice. -/
theorem exported_http2_respelled :
    exported "http_2" = "HTTP2" ∧
      exported (exported "http_2") = "Http2" ∧
      exported (exported "http_2") ≠ exported "http_2" ∧
      (Model.ofSchema (reading "http_2")).services.map Model.Service.repoEntities =
      [["Http2"]] := by
  decide +kernel

end Name

end GoScaffold
