import GoScaffold.Proofs.Name
import Mathlib

/-! The letters and digits of a name. However a name is spelled, they stay in their order and only
change their case, for each spelling is joined from the words of the name, and the words together
are its letters and digits. Mathlib is imported whole, since none of its modules brings the lemmas
on ASCII casing. -/

namespace GoScaffold

def Text.Alphanum (cs : List Char) : Prop := ∀ c ∈ cs, c.isAlphanum = true

instance (cs : List Char) : Decidable (Text.Alphanum cs) := List.decidableBAll _ cs

namespace Text

/-! Case of ASCII letters and digits. -/

section

variable {c : Char} {cs : List Char}

theorem Alphanum.tail (h : Alphanum (c :: cs)) : Alphanum cs := (List.forall_mem_cons.1 h).2

theorem Alphanum.map_toLower (h : Alphanum cs) : Alphanum (cs.map Char.toLower) :=
  List.forall_mem_map.2 fun c hc => (isAlphanum_toLower c).trans (h c hc)

theorem toNat_lt_of_isAlphanum (h : c.isAlphanum = true) : c.toNat < 0x80 := by
  unfold Char.isAlphanum Char.isAlpha Char.isUpper Char.isLower Char.isDigit at h
  simp only [Bool.or_eq_true, Bool.and_eq_true, decide_eq_true_eq, UInt32.le_iff_toNat_le,
    ge_iff_le] at h
  have hcode : c.toNat = c.val.toNat := rfl
  have hlast : 'Z'.val.toNat = 90 ∧ 'z'.val.toNat = 122 ∧ '9'.val.toNat = 57 := ⟨rfl, rfl, rfl⟩
  omega

theorem lowerFrom_eq_map (h : Alphanum cs) (before : List Char) :
    lowerFrom before cs = cs.map Char.toLower := by
  induction cs generalizing before with
  | nil => rfl
  | cons c cs ih =>
    have hascii := toNat_lt_of_isAlphanum (h c List.mem_cons_self)
    have hsigma : ¬(c.toNat = 0x3A3 ∧ startsCased before ∧ ¬startsCased cs) := by omega
    rw [lowerFrom, if_neg hsigma, lowerChar, if_pos hascii, ih h.tail]
    rfl

theorem toList_lower {s : String} (h : Alphanum s.toList) :
    (lower s).toList = s.toList.map Char.toLower := by
  rw [lower, String.toList_ofList, lowerFrom_eq_map h]

theorem toList_upper {s : String} (h : Alphanum s.toList) :
    (upper s).toList = s.toList.map Char.toUpper := by
  rw [upper, String.toList_ofList, List.map_eq_flatMap]
  exact List.flatMap_congr fun c hc => if_pos (toNat_lt_of_isAlphanum (h c hc))

def capital : List Char → List Char
  | [] => []
  | c :: cs => c.toUpper :: cs.map Char.toLower

theorem map_toLower_capital (cs : List Char) :
    (capital cs).map Char.toLower = cs.map Char.toLower := by
  cases cs <;> simp [capital, Function.comp_def]

theorem capital_map_toLower (cs : List Char) : capital (cs.map Char.toLower) = capital cs := by
  cases cs <;> simp [capital, Function.comp_def]

theorem toList_upperFirst {s : String} (h : Alphanum s.toList) :
    (upperFirst s).toList = s.toList.modifyHead Char.toUpper := by
  unfold upperFirst
  split
  next hs => rw [hs]; rfl
  next c cs hs =>
    rw [hs] at h
    rw [hs, String.toList_ofList, upperChar,
      if_pos (toNat_lt_of_isAlphanum (h c List.mem_cons_self))]
    rfl

end

end Text

namespace Name

open Text

def letters (s : String) : String := String.ofList (s.toList.filter Char.isAlphanum)

/-! Words. -/

theorem ne_nil_of_mem_wordsFrom {word cs w : List Char} (hw : w ∈ wordsFrom word cs) : w ≠ [] := by
  fun_induction wordsFrom word cs with
  | case1 => cases hw
  | case2 word hword =>
    rw [List.mem_singleton.1 hw]
    simpa using hword
  | case3 c rest hc ih => exact ih hw
  | case4 c rest hc ih => exact ih hw
  | case5 c rest last word hc ih =>
    rcases List.mem_cons.1 hw with rfl | hw
    · simp
    · exact ih hw
  | case6 c rest last word hc hstarts ih =>
    rcases List.mem_cons.1 hw with rfl | hw
    · simp
    · exact ih hw
  | case7 c rest last word hc hstarts ih => exact ih hw

theorem flatten_wordsFrom (word cs : List Char) :
    (wordsFrom word cs).flatten = word.reverse ++ cs.filter Char.isAlphanum := by
  fun_induction wordsFrom word cs with
  | case1 word hword => simpa using hword
  | case2 word hword => simp
  | case3 c rest hc ih => simp [ih, hc]
  | case4 c rest hc ih => simp [ih, hc]
  | case5 c rest last word hc ih =>
    rw [Bool.not_eq_true'] at hc
    simp [ih, hc]
  | case6 c rest last word hc hstarts ih =>
    rw [Bool.not_eq_true, Bool.not_eq_false'] at hc
    simp [ih, hc]
  | case7 c rest last word hc hstarts ih =>
    rw [Bool.not_eq_true, Bool.not_eq_false'] at hc
    simp [ih, hc]

section

variable {s word : String}

theorem words_eq_map (h : ∃ c ∈ s.toList, c.isAlphanum = true) :
    words s = (wordsFrom [] s.toList).map String.ofList := by
  obtain ⟨c, hc, halphanum⟩ := h
  have hne : wordsFrom [] s.toList ≠ [] := by
    intro hnil
    rw [not_isAlphanum_of_wordsFrom_eq_nil hnil c hc] at halphanum
    cases halphanum
  have hempty : ¬s.isEmpty = true := by
    intro hs
    rw [String.isEmpty_iff.1 hs] at hc
    cases hc
  rw [words_eq, if_neg hempty, if_neg hne]

theorem alphanum_of_mem_words (h : ∃ c ∈ s.toList, c.isAlphanum = true) (hword : word ∈ words s) :
    Alphanum word.toList := by
  rw [words_eq_map h] at hword
  obtain ⟨w, hw, rfl⟩ := List.mem_map.1 hword
  rw [String.toList_ofList]
  exact isAlphanum_of_mem_wordsFrom (List.forall_mem_nil _) hw

theorem ne_empty_of_mem_words (h : ∃ c ∈ s.toList, c.isAlphanum = true) (hword : word ∈ words s) :
    word ≠ "" := by
  rw [words_eq_map h] at hword
  obtain ⟨w, hw, rfl⟩ := List.mem_map.1 hword
  simpa using ne_nil_of_mem_wordsFrom hw

theorem join_words (h : ∃ c ∈ s.toList, c.isAlphanum = true) :
    String.join (words s) = letters s := by
  rw [words_eq_map h, ← String.toList_inj, String.toList_join, letters, String.toList_ofList,
    List.flatMap_map]
  simp only [String.toList_ofList, List.flatMap_id']
  exact flatten_wordsFrom [] s.toList

/-! Spellings of a word. -/

theorem toList_capitalize (h : Alphanum word.toList) :
    (capitalize word).toList = capital word.toList := by
  have hlower := toList_lower h
  have hletters : Alphanum (lower word).toList := hlower ▸ h.map_toLower
  rw [capitalize, toList_upperFirst hletters, hlower]
  cases word.toList <;> simp [capital]

theorem toList_exportWord (h : Alphanum word.toList) :
    (exportWord word).toList =
      if upper word ∈ initialisms then word.toList.map Char.toUpper else capital word.toList := by
  unfold exportWord
  simp only [List.contains_iff_mem]
  split_ifs
  · exact toList_upper h
  · exact toList_capitalize h

theorem toList_jsonWord (h : Alphanum word.toList) :
    (jsonWord word).toList = capital word.toList := by
  have hlower := toList_lower h
  rw [← capital_map_toLower, ← hlower]
  unfold jsonWord
  dsimp only
  split_ifs with hid
  · rw [hid]
    rfl
  · exact toList_capitalize (hlower ▸ h.map_toLower)

end

/-! Spellings of a name. -/

/-- The same letters and digits, in other case, the first one in upper case. -/
structure Respells (cs ds : List Char) : Prop where
  lower : ds.map Char.toLower = cs.map Char.toLower
  head : ds.head? = cs.head?.map Char.toUpper

theorem alphanum_of_map_toLower {cs ds : List Char} (hcs : Alphanum cs)
    (h : ds.map Char.toLower = cs.map Char.toLower) : Alphanum ds := by
  intro d hd
  have hmem : d.toLower ∈ cs.map Char.toLower := h ▸ List.mem_map_of_mem hd
  obtain ⟨c, hc, hlower⟩ := List.mem_map.1 hmem
  rw [← isAlphanum_toLower, ← hlower, isAlphanum_toLower]
  exact hcs c hc

theorem respells_exportWord {word : String} (h : Alphanum word.toList) :
    Respells word.toList (exportWord word).toList := by
  rw [toList_exportWord h]
  split_ifs
  · exact ⟨by simp [Function.comp_def], List.head?_map⟩
  · exact ⟨map_toLower_capital _, by cases word.toList <;> rfl⟩

theorem respells_flatMap {words : List String} (h : ∀ word ∈ words, Alphanum word.toList)
    (hne : ∀ word ∈ words, word ≠ "") :
    Respells (words.flatMap String.toList) (words.flatMap fun word =>
      (exportWord word).toList) := by
  have hwords : ∀ word ∈ words, Respells word.toList (exportWord word).toList :=
    fun word hword => respells_exportWord (h word hword)
  constructor
  · rw [List.map_flatMap, List.map_flatMap]
    exact List.flatMap_congr fun word hword => (hwords word hword).lower
  · cases words with
    | nil => rfl
    | cons word words =>
      -- the first word is not empty, so it has the first letter of the name
      obtain ⟨c, cs, hcs⟩ :=
        List.exists_cons_of_ne_nil (mt String.toList_eq_nil_iff.1 (hne word List.mem_cons_self))
      have hhead := (hwords word List.mem_cons_self).head
      rw [hcs] at hhead
      rw [List.flatMap_cons, List.flatMap_cons, List.head?_append, List.head?_append, hhead, hcs]
      rfl

theorem alphanum_irregular : ∀ entry ∈ irregular, Alphanum entry.1.toList := by decide

theorem respells_irregular : ∀ entry ∈ irregular,
    entry.2.toList.map Char.toLower = entry.1.toList.map Char.toLower ∧
      entry.2.toList.head? = entry.1.toList.head?.map Char.toUpper := by decide

section

variable {s : String}

theorem toList_letters_of_alphanum (h : Alphanum s.toList) : (letters s).toList = s.toList := by
  rw [letters, String.toList_ofList]
  exact List.filter_eq_self.2 h

theorem alphanum_letters (s : String) : Alphanum (letters s).toList := by
  rw [letters, String.toList_ofList]
  exact fun c hc => (List.mem_filter.1 hc).2

theorem respells_of_irregular {entry : String × String} (hentry : entry ∈ irregular)
    (h : sameLetters s entry.1 = true) : Respells (letters s).toList entry.2.toList := by
  have hsame : s.toList.map Char.toLower = entry.1.toList.map Char.toLower := beq_iff_eq.1 h
  have hletters :=
    toList_letters_of_alphanum (alphanum_of_map_toLower (alphanum_irregular entry hentry) hsame)
  obtain ⟨hlower, hhead⟩ := respells_irregular entry hentry
  rw [hletters]
  refine ⟨hlower.trans hsame.symm, ?_⟩
  -- the upper case of a letter is that of its lower case
  have hupper (cs : List Char) : cs.head?.map Char.toUpper =
      (cs.map Char.toLower).head?.map Char.toUpper := by
    cases cs <;> simp
  rw [hhead, hupper, ← hsame, ← hupper]

theorem respells_exported (h : ∃ c ∈ s.toList, c.isAlphanum = true) :
    Respells (letters s).toList (exported s).toList := by
  unfold exported
  split
  next entry hentry =>
    have hsame := List.find?_some hentry
    exact respells_of_irregular (List.mem_of_find?_eq_some hentry) hsame
  next =>
    have hwords :=
      respells_flatMap (fun _ => alphanum_of_mem_words h) (fun _ => ne_empty_of_mem_words h)
    rw [← String.toList_join, join_words h] at hwords
    rw [String.toList_join, List.flatMap_map]
    exact hwords

theorem map_toLower_jsonKey (h : ∃ c ∈ s.toList, c.isAlphanum = true) :
    (jsonKey s).toList.map Char.toLower = (letters s).toList.map Char.toLower := by
  have halphanum : ∀ word ∈ words s, Alphanum word.toList := fun _ => alphanum_of_mem_words h
  rw [← join_words h, String.toList_join]
  unfold jsonKey
  split
  next hnil => rw [hnil]; rfl
  next first rest hwords =>
    rw [hwords, List.forall_mem_cons] at halphanum
    have hfirst : (lower first).toList.map Char.toLower = first.toList.map Char.toLower := by
      simp [toList_lower halphanum.1, Function.comp_def]
    have hrest : rest.flatMap (fun word => (jsonWord word).toList.map Char.toLower) =
        rest.flatMap fun word => word.toList.map Char.toLower := by
      refine List.flatMap_congr fun word hword => ?_
      rw [toList_jsonWord (halphanum.2 word hword), map_toLower_capital]
    rw [hwords, String.toList_join, List.flatMap_cons, List.flatMap_cons, List.map_append,
      List.map_append, hfirst, List.flatMap_map, List.map_flatMap, List.map_flatMap, hrest]

theorem lower_eq_of_map_toLower {t : String} (hs : Alphanum s.toList)
    (h : t.toList.map Char.toLower = s.toList.map Char.toLower) : lower t = lower s := by
  rw [← String.toList_inj, toList_lower hs, toList_lower (alphanum_of_map_toLower hs h), h]

/-- All spellings of a name have its letters and digits, which its words consist of, in their order.
Exported, a name that begins with a letter is an identifier that begins in upper case. -/
theorem spellings_agree (s : String) (h : ∃ c ∈ s.toList, c.isAlphanum = true) :
    (∀ word ∈ words s, word ≠ "") ∧
      String.join (words s) = letters s ∧
      lower (exported s) = lower (letters s) ∧
      lower (jsonKey s) = lower (letters s) ∧
      lower (column s) = lower (letters s) ∧
      (∀ c, (letters s).toList.head? = some c → c.isAlpha = true →
        Alphanum (exported s).toList ∧ ∃ d, (exported s).toList.head? = some d ∧
        d.isUpper = true) := by
  have hexported := respells_exported h
  have hletters := alphanum_letters s
  have hlower := lower_eq_of_map_toLower hletters hexported.lower
  refine ⟨fun _ => ne_empty_of_mem_words h, join_words h, hlower,
    lower_eq_of_map_toLower hletters (map_toLower_jsonKey h), ?_, ?_⟩
  · rw [column, hlower]
    refine lower_eq_of_map_toLower hletters ?_
    simp [toList_lower hletters, Function.comp_def]
  · intro c hc halpha
    refine ⟨alphanum_of_map_toLower hletters hexported.lower, c.toUpper, ?_, ?_⟩
    · rw [hexported.head, hc]
      rfl
    · rw [Char.isUpper_toUpper_eq_isAlpha, halpha]

end

theorem spellings_agree_server :
    words "é-HTTPServer_id2" = ["HTTP", "Server", "id2"] ∧
      letters "é-HTTPServer_id2" = "HTTPServerid2" ∧
      exported "é-HTTPServer_id2" = "HTTPServerId2" ∧
      jsonKey "é-HTTPServer_id2" = "httpServerId2" ∧
      lower (exported "é-HTTPServer_id2") = lower (letters "é-HTTPServer_id2") ∧
      Alphanum (exported "é-HTTPServer_id2").toList := by
  have hsome : ∃ c ∈ "é-HTTPServer_id2".toList, c.isAlphanum = true := ⟨'H', by decide, by decide⟩
  have hletters : letters "é-HTTPServer_id2" = "HTTPServerid2" := by decide +kernel
  obtain ⟨-, -, hlower, -, -, hexported⟩ := spellings_agree "é-HTTPServer_id2" hsome
  refine ⟨by decide +kernel, hletters, by decide +kernel, by decide +kernel, hlower, ?_⟩
  exact (hexported 'H' (by rw [hletters]; rfl) (by decide)).1

end Name

end GoScaffold
