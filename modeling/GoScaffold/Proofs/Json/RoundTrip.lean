import GoScaffold.Json.Printer
import GoScaffold.Json.Reader
import GoScaffold.Proofs.Number.Decimal
import Mathlib.Data.List.Basic
import Mathlib.Data.Nat.Basic
import Mathlib.Tactic.IntervalCases

/-! The text of a value denotes the value: the reader undoes the compact printer, for every value
whose numbers are integers of 64 bits. -/

namespace GoScaffold.Width

theorem holdsInt_iff {i : Int} :
    holdsInt 64 i = true ↔ -9223372036854775808 ≤ i ∧ i ≤ 9223372036854775807 := by
  rw [holdsInt, Bool.and_eq_true, decide_eq_true_eq, decide_eq_true_eq]
  rfl

theorem holdsEither_iff {i : Int} :
    holdsEither 64 i = true ↔ -9223372036854775808 ≤ i ∧ i < 18446744073709551616 := by
  rw [holdsEither, Bool.and_eq_true, decide_eq_true_eq, decide_eq_true_eq]
  rfl

theorem holdsEither_of_holdsInt {i : Int} (hi : holdsInt 64 i = true) :
    holdsEither 64 i = true := by
  rw [holdsInt_iff] at hi
  rw [holdsEither_iff]
  omega

end GoScaffold.Width

namespace GoScaffold.Json

/-- What follows a value in the text of a list or a map, or at the end of a text. -/
def Delimited (cs : List Char) : Prop := ∀ c ∈ cs.head?, c = ',' ∨ c = ']' ∨ c = '\x7d'

theorem delimited_nil : Delimited [] := by
  intro c hc
  simp at hc

theorem delimited_cons {c : Char} {cs : List Char} (hc : c = ',' ∨ c = ']' ∨ c = '\x7d') :
    Delimited (c :: cs) := by
  intro d hd
  rw [List.head?_cons, Option.mem_some_iff] at hd
  exact hd ▸ hc

namespace Numeral

theorem absorb_concat {n m : Nat} {cs : List Char} (h : absorb n cs = (m, 0)) (c : Char) :
    absorb n (cs ++ [c]) = absorb m [c] := by
  induction cs generalizing n with
  | nil =>
    have hm : n = m := congrArg Prod.fst h
    rw [hm, List.nil_append]
  | cons d cs ih =>
    rw [List.cons_append, absorb]
    rw [absorb] at h
    cases hp : push? n d with
    | none => simp [hp] at h
    | some k =>
      rw [hp, Option.elim_some] at h
      rw [Option.elim_some]
      exact ih h

theorem push?_digitChar {n d : Nat} (hd : d < 10) (h : 10 * n + d < Width.count 64) :
    push? n d.digitChar = some (10 * n + d) := by
  have hv : digitValue d.digitChar = d := Nat.toNat_digitChar_sub_48_of_lt_ten hd
  simp [push?, hv, Width.holdsNat, h]

theorem absorb_toDigits {m : Nat} (hm : m < Width.count 64) :
    absorb 0 (Nat.toDigits 10 m) = (m, 0) := by
  induction m using Nat.strongRecOn with
  | ind m ih =>
    by_cases h : m < 10
    · rw [Nat.toDigits_of_lt_base h, absorb, push?_digitChar h (by omega), Nat.mul_zero,
        Nat.zero_add]
      rfl
    · have hlast : 10 * (m / 10) + m % 10 = m := Nat.div_add_mod m 10
      rw [Nat.toDigits_of_base_le (by omega) (by omega),
        absorb_concat (ih (m / 10) (by omega) (by omega)), absorb,
        push?_digitChar (Nat.mod_lt m (by omega)) (by omega), hlast]
      rfl

theorem isDigit_toDigits {m : Nat} {c : Char} (hc : c ∈ Nat.toDigits 10 m) : c.isDigit = true :=
  Nat.isDigit_of_mem_toDigits (by omega) (by omega) hc

theorem exists_toDigits (m : Nat) : ∃ c cs, Nat.toDigits 10 m = c :: cs ∧ c.isDigit = true := by
  obtain ⟨c, cs, hcs⟩ := List.exists_cons_of_ne_nil (Nat.toDigits_ne_nil (n := m) (b := 10))
  exact ⟨c, cs, hcs, isDigit_toDigits (m := m) (hcs ▸ List.mem_cons_self)⟩

theorem head_toDigits {m : Nat} (hm : 0 < m) : ∃ c cs, Nat.toDigits 10 m = c :: cs ∧ c ≠ '0' := by
  induction m using Nat.strongRecOn with
  | ind m ih =>
    by_cases h : m < 10
    · refine ⟨m.digitChar, [], Nat.toDigits_of_lt_base h, ?_⟩
      rw [Ne, Nat.digitChar_eq_zero]
      omega
    · obtain ⟨c, cs, hcs, hc⟩ := ih (m / 10) (by omega) (by omega)
      refine ⟨c, cs ++ [(m % 10).digitChar], ?_, hc⟩
      rw [Nat.toDigits_of_base_le (by omega) (by omega), hcs, List.cons_append]

theorem endsDigits_of_delimited {rest : List Char} (hrest : Delimited rest) :
    Scientific.EndsDigits rest := by
  intro c hc
  obtain rfl | rfl | rfl := hrest c hc <;> rfl

theorem readWhole_toDigits (m : Nat) {rest : List Char} (hrest : Delimited rest) :
    readWhole (Nat.toDigits 10 m ++ rest) = some (Nat.toDigits 10 m, rest) := by
  have hdigits : Scientific.IsDigits (Nat.toDigits 10 m) := fun c => isDigit_toDigits
  have hends := endsDigits_of_delimited hrest
  rw [readWhole, Scientific.takeWhile_digits hdigits hends,
    Scientific.dropWhile_digits hdigits hends]
  obtain rfl | hm := Nat.eq_zero_or_pos m
  · rfl
  · obtain ⟨c, cs, hcs, hc⟩ := head_toDigits hm
    rw [hcs]
    split <;> simp_all

theorem readFraction_delimited {rest : List Char} (hrest : Delimited rest) :
    readFraction rest = some (none, rest) := by
  unfold readFraction
  split
  · have := hrest _ rfl
    simp at this
  · rfl

theorem readExponent_delimited {rest : List Char} (hrest : Delimited rest) :
    readExponent rest = some (none, rest) := by
  cases rest with
  | nil => rfl
  | cons c cs => obtain rfl | rfl | rfl := hrest c rfl <;> rfl

theorem read_toDigits (m : Nat) {rest : List Char} (hrest : Delimited rest) :
    read (Nat.toDigits 10 m ++ rest) = some (⟨false, Nat.toDigits 10 m, none, none⟩, rest) := by
  have hminus : ∀ cs, Nat.toDigits 10 m ++ rest ≠ '-' :: cs := by
    intro cs h
    obtain ⟨d, ds, hds, hd⟩ := exists_toDigits m
    rw [hds] at h
    injection h with h
    rw [h] at hd
    exact absurd hd (by decide)
  unfold read
  split
  next hsign =>
    split at hsign
    next hcs => exact absurd hcs (hminus _)
    next =>
      obtain ⟨rfl, rfl⟩ := Prod.mk.inj hsign
      simp [readWhole_toDigits m hrest, readFraction_delimited hrest, readExponent_delimited hrest]

theorem read_minus_toDigits (m : Nat) {rest : List Char} (hrest : Delimited rest) :
    read ('-' :: (Nat.toDigits 10 m ++ rest)) =
    some (⟨true, Nat.toDigits 10 m, none, none⟩, rest) := by
  simp [read, readWhole_toDigits m hrest, readFraction_delimited hrest,
    readExponent_delimited hrest]

theorem number?_nat {m : Nat} (hm : m < Width.count 64) :
    number? ⟨false, Nat.toDigits 10 m, none, none⟩ = some (.int m) := by
  simp [number?, isWhole, absorb_toDigits hm]

theorem number?_negSucc {m : Nat} (hm : Width.holdsInt 64 (Int.negSucc m) = true) :
    number? ⟨true, Nat.toDigits 10 (m + 1), none, none⟩ = some (.int (Int.negSucc m)) := by
  have hneg : -1 + -(m : Int) = Int.negSucc m := by omega
  have hfits : m + 1 < Width.count 64 := by
    have hcount : Width.count 64 = 18446744073709551616 := by decide
    have hlow := (Width.holdsInt_iff.1 hm).1
    omega
  simp [number?, isWhole, absorb_toDigits hfits, hneg, hm]

end Numeral

theorem hexValue?_digitChar : ∀ n < 16, hexValue? n.digitChar = some n := by decide

theorem hex_of_lt {n : Nat} (hn : n < 16) : Text.hex n = [n.digitChar] := Nat.toDigits_of_lt_base hn

theorem hex_of_ge {n : Nat} (hlow : 16 ≤ n) (hhigh : n < 32) :
    Text.hex n = ['1', (n % 16).digitChar] := by
  have hquot : n / 16 = 1 := by omega
  rw [Text.hex, Nat.toDigits_of_base_le (by omega) hlow, hquot]
  rfl

theorem readUnits_escapeChar (c : Char) (units : List Nat) (cs : List Char) :
    readUnits units (escapeChar c ++ cs) = readUnits (c.toNat :: units) cs := by
  unfold escapeChar
  split
  next h => subst h; rfl
  split
  next h => subst h; rfl
  split
  next h => subst h; rfl
  split
  next h => subst h; rfl
  split
  next h => subst h; rfl
  split
  next h =>
    rw [h]
    rfl
  split
  next h =>
    rw [h]
    rfl
  split
  next h =>
    -- a control character below 16: one hexadecimal digit
    rw [hex_of_lt h]
    have hunit : codeUnit? '0' '0' '0' c.toNat.digitChar = some c.toNat := by
      rw [codeUnit?, hexValue?_digitChar c.toNat h]
      simp [show hexValue? '0' = some 0 from by decide]
    simp [readUnits, hunit]
  split
  next hlow h =>
    rw [hex_of_ge (by omega) h]
    have hunit : codeUnit? '0' '0' '1' (c.toNat % 16).digitChar = some c.toNat := by
      rw [codeUnit?, hexValue?_digitChar (c.toNat % 16) (by omega)]
      simp [show hexValue? '0' = some 0 from by decide, show hexValue? '1' = some 1 from by decide]
      omega
    simp [readUnits, hunit]
  next hquote hslash _ _ _ _ _ _ hctl =>
    rw [List.singleton_append, readUnits]
    · rw [if_neg hctl]
    all_goals simp_all

theorem readUnits_flatMap (l : List Char) (units : List Nat) (rest : List Char) :
    readUnits units (l.flatMap escapeChar ++ '"' :: rest) =
      some (units.reverse ++ l.map Char.toNat, rest) := by
  induction l generalizing units with
  | nil => simp [readUnits]
  | cons c l ih =>
    rw [List.flatMap_cons, List.append_assoc, readUnits_escapeChar, ih]
    simp

theorem charsOfUnits_map (l cs : List Char) :
    charsOfUnits cs (l.map Char.toNat) = some (cs.reverse ++ l) := by
  induction l generalizing cs with
  | nil => simp [charsOfUnits]
  | cons c l ih =>
    have hvalid : c.toNat < 0xD800 ∨ 0xDFFF < c.toNat ∧ c.toNat < 0x110000 := c.valid
    have hhigh : ¬(0xD800 ≤ c.toNat ∧ c.toNat < 0xDC00) := by omega
    have hlow : ¬(0xDC00 ≤ c.toNat ∧ c.toNat < 0xE000) := by omega
    rw [List.map_cons, charsOfUnits.eq_def]
    simp only [if_neg hhigh, if_neg hlow, Char.ofNat_toNat]
    rw [ih, List.reverse_cons, List.append_assoc, List.singleton_append]

theorem readString_quoted (s : String) (rest : List Char) :
    readString (s.toList.flatMap escapeChar ++ '"' :: rest) = some (some s, rest) := by
  simp [readString, readUnits_flatMap, charsOfUnits_map]

theorem skipSpace_cons {c : Char} (hc : isSpace c = false) (cs : List Char) :
    skipSpace (c :: cs) = c :: cs := by
  simp [skipSpace, hc]

mutual

def Integral : Json → Prop
  | null => True
  | bool _ => True
  | num (.int i) => Width.holdsEither 64 i = true
  | num (.float _) => False
  | str _ => True
  | arr items => IntegralItems items
  | obj entries => IntegralEntries entries

def IntegralItems : List Json → Prop
  | [] => True
  | j :: rest => j.Integral ∧ IntegralItems rest

def IntegralEntries : List (String × Json) → Prop
  | [] => True
  | (_, j) :: rest => j.Integral ∧ IntegralEntries rest

end

theorem chars_int_ofNat (m : Nat) : chars (num (.int m)) = Nat.toDigits 10 m := Nat.toList_repr

theorem chars_int_negSucc (m : Nat) :
    chars (num (.int (Int.negSucc m))) = '-' :: Nat.toDigits 10 (m + 1) := by
  change ("-" ++ (m + 1).repr).toList = _
  rw [String.toList_append, Nat.toList_repr]
  rfl

theorem not_isSpace {c : Char} (hc : c.isDigit = true ∨ c = '-') : isSpace c = false := by
  rw [Bool.eq_false_iff]
  intro h
  simp only [isSpace, Bool.or_eq_true, beq_iff_eq] at h
  obtain ((rfl | rfl) | rfl) | rfl := h <;> exact absurd hc (by decide)

theorem head_chars {j : Json} (hj : j.Integral) :
    ∃ c cs, chars j = c :: cs ∧ isSpace c = false ∧ c ≠ ']' := by
  have hdigits (m : Nat) : ∃ c cs, Nat.toDigits 10 m = c :: cs ∧ isSpace c = false ∧ c ≠ ']' := by
    obtain ⟨c, cs, hcs, hc⟩ := Numeral.exists_toDigits m
    refine ⟨c, cs, hcs, not_isSpace (.inl hc), ?_⟩
    rintro rfl
    exact absurd hc (by decide)
  cases j with
  | null => exact ⟨_, _, rfl, by decide, by decide⟩
  | bool b => cases b <;> exact ⟨_, _, rfl, by decide, by decide⟩
  | num n =>
    rcases n with (m | m) | x
    · exact chars_int_ofNat m ▸ hdigits m
    · exact ⟨_, _, chars_int_negSucc m, by decide, by decide⟩
    · exact hj.elim
  | str s => exact ⟨_, _, rfl, by decide, by decide⟩
  | arr items => exact ⟨_, _, rfl, by decide, by decide⟩
  | obj entries => exact ⟨_, _, rfl, by decide, by decide⟩

theorem length_chars_pos {j : Json} (hj : j.Integral) : 0 < (chars j).length := by
  obtain ⟨c, cs, hcs, -, -⟩ := head_chars hj
  simp [hcs]

section Values

variable {fuel : Nat} {cs rest : List Char}

theorem readValue_numeral {c : Char} (hc : c.isDigit = true ∨ c = '-') :
    readValue (fuel + 1) (c :: cs) =
      (Numeral.read (c :: cs)).map fun r => (.scalar (numeralScalar r.1), r.2) := by
  rw [readValue, skipSpace_cons (not_isSpace hc)]
  split
  all_goals first
    | rfl
    | (rename_i h; injection h with h; subst h; exact absurd hc (by decide))

theorem readValue_str (s : String) :
    readValue (fuel + 1) (chars (.str s) ++ rest) = some (.scalar (.ofString s), rest) := by
  have hquote : chars (.str s) ++ rest = '"' :: (s.toList.flatMap escapeChar ++ '"' :: rest) := by
    simp [chars, quoteChars]
  rw [hquote, readValue, skipSpace_cons (by decide)]
  simp [readString_quoted, stringScalar]

theorem readValue_int {i : Int} (hi : Width.holdsEither 64 i = true) (hrest : Delimited rest) :
    readValue (fuel + 1) (chars (.num (.int i)) ++ rest) =
      some (.scalar (.ofNumber (.int i)), rest) := by
  have hbound := Width.holdsEither_iff.1 hi
  cases i with
  | ofNat m =>
    obtain ⟨c, cs, hcs, hc⟩ := Numeral.exists_toDigits m
    have hm : m < Width.count 64 := by
      have hcount : Width.count 64 = 18446744073709551616 := by decide
      simp only [Int.ofNat_eq_natCast] at hbound
      omega
    change readValue _ (chars (num (.int m)) ++ rest) = _
    rw [chars_int_ofNat, hcs, List.cons_append, readValue_numeral (.inl hc),
      ← List.cons_append, ← hcs, Numeral.read_toDigits m hrest, Option.map_some]
    simp only [numeralScalar, Numeral.number?_nat hm]
    rfl
  | negSucc m =>
    have hm : Width.holdsInt 64 (Int.negSucc m) = true := by
      rw [Width.holdsInt_iff]
      omega
    rw [chars_int_negSucc, List.cons_append, readValue_numeral (.inr rfl),
      Numeral.read_minus_toDigits (m + 1) hrest, Option.map_some]
    simp only [numeralScalar, Numeral.number?_negSucc hm]

theorem readValue_arr {c : Char} {items : List Document} (hspace : isSpace c = false)
    (hend : c ≠ ']') (h : readItems fuel [] (c :: cs) = some (items, rest)) :
    readValue (fuel + 1) ('[' :: c :: cs) = some (.list .loose items, rest) := by
  rw [readValue, skipSpace_cons (by decide)]
  simp only [skipSpace_cons hspace]
  split
  next hcs =>
    injection hcs with hc
    exact absurd hc hend
  next => rw [h, Option.map_some]

theorem readValue_obj {key : String} {entries : List (Option String × Document)}
    (h : readEntries fuel [] (quoteChars key ++ cs) = some (entries, rest)) :
    readValue (fuel + 1) ('\x7b' :: (quoteChars key ++ cs)) = some (.map .loose entries, rest) := by
  rw [quoteChars, List.cons_append, List.append_assoc, List.singleton_append] at h ⊢
  rw [readValue, skipSpace_cons (by decide)]
  simp [skipSpace_cons (show isSpace '"' = false by decide), h]

variable {d : Document} {items : List Document} {entries : List (Option String × Document)}

theorem readItems_last (h : readValue fuel cs = some (d, ']' :: rest)) :
    readItems (fuel + 1) items cs = some (items.reverse ++ [d], rest) := by
  rw [readItems, h]
  simp [skipSpace_cons (show isSpace ']' = false by decide)]

theorem readItems_more (h : readValue fuel cs = some (d, ',' :: rest)) :
    readItems (fuel + 1) items cs = readItems fuel (d :: items) rest := by
  rw [readItems, h]
  simp [skipSpace_cons (show isSpace ',' = false by decide)]

theorem readEntries_last {key : String} (h : readValue fuel cs = some (d, '\x7d' :: rest)) :
    readEntries (fuel + 1) entries (quoteChars key ++ ':' :: cs) =
      some (entries.reverse ++ [(some key, d)], rest) := by
  rw [quoteChars, List.cons_append, List.append_assoc, List.singleton_append, readEntries,
    skipSpace_cons (by decide)]
  simp [readString_quoted, skipSpace_cons (show isSpace ':' = false by decide), h,
    skipSpace_cons (show isSpace '\x7d' = false by decide)]

theorem readEntries_more {key : String} (h : readValue fuel cs = some (d, ',' :: rest)) :
    readEntries (fuel + 1) entries (quoteChars key ++ ':' :: cs) =
      readEntries fuel ((some key, d) :: entries) rest := by
  rw [quoteChars, List.cons_append, List.append_assoc, List.singleton_append, readEntries,
    skipSpace_cons (by decide)]
  simp [readString_quoted, skipSpace_cons (show isSpace ':' = false by decide), h,
    skipSpace_cons (show isSpace ',' = false by decide)]

end Values

theorem itemChars_cons (j k : Json) (items : List Json) (rest : List Char) :
    itemChars (j :: k :: items) ++ rest = chars j ++ ',' :: (itemChars (k :: items) ++ rest) := by
  simp [itemChars]

theorem entryChars_cons (key : String) (j : Json) (e : String × Json)
    (entries : List (String × Json))
    (rest : List Char) :
    entryChars ((key, j) :: e :: entries) ++ rest =
      quoteChars key ++ ':' :: (chars j ++ ',' :: (entryChars (e :: entries) ++ rest)) := by
  simp [entryChars]

theorem exists_itemChars (j : Json) (items : List Json) :
    ∃ cs, itemChars (j :: items) = chars j ++ cs := by
  cases items with
  | nil => exact ⟨_, rfl⟩
  | cons k items => exact ⟨_, rfl⟩

theorem exists_entryChars (e : String × Json) (entries : List (String × Json)) :
    ∃ cs, entryChars (e :: entries) = quoteChars e.1 ++ cs := by
  cases entries with
  | nil => exact ⟨_, rfl⟩
  | cons f entries => exact ⟨_, rfl⟩

mutual

-- every call leaves one step fewer, and the text bounds the number of steps
theorem readValue_chars : ∀ (j : Json) (fuel : Nat) (rest : List Char), j.Integral →
    (chars j).length ≤ fuel → Delimited rest →
    readValue fuel (chars j ++ rest) = some (Document.ofJson j, rest)
  | j, 0, rest, hj, hfuel, _ => by
    have hpos := length_chars_pos hj
    omega
  | null, fuel + 1, rest, _, _, _ => rfl
  | bool true, fuel + 1, rest, _, _, _ => rfl
  | bool false, fuel + 1, rest, _, _, _ => rfl
  | num (.int i), fuel + 1, rest, hj, _, hrest => readValue_int hj hrest
  | num (.float x), fuel + 1, rest, hj, _, _ => hj.elim
  | str s, fuel + 1, rest, _, _, _ => readValue_str s
  | arr [], fuel + 1, rest, _, _, _ => rfl
  | arr (j :: items), fuel + 1, rest, hj, hfuel, _ => by
    have hlength : (itemChars (j :: items)).length ≤ fuel := by
      simp only [chars, List.length_cons] at hfuel
      omega
    have hitems := readItems_chars j items fuel [] rest hj hlength
    obtain ⟨more, hmore⟩ := exists_itemChars j items
    obtain ⟨c, cs, hcs, hspace, hend⟩ := head_chars hj.1
    rw [chars, List.cons_append]
    rw [hmore, hcs, List.cons_append, List.cons_append] at hitems ⊢
    exact readValue_arr hspace hend hitems
  | obj [], fuel + 1, rest, _, _, _ => rfl
  | obj (e :: entries), fuel + 1, rest, hj, hfuel, _ => by
    have hlength : (entryChars (e :: entries)).length ≤ fuel := by
      simp only [chars, List.length_cons] at hfuel
      omega
    have hentries := readEntries_chars e entries fuel [] rest hj hlength
    obtain ⟨more, hmore⟩ := exists_entryChars e entries
    rw [chars, List.cons_append]
    rw [hmore, List.append_assoc] at hentries ⊢
    exact readValue_obj hentries

theorem readItems_chars : ∀ (j : Json) (items : List Json) (fuel : Nat) (acc : List Document)
    (rest : List Char), IntegralItems (j :: items) → (itemChars (j :: items)).length ≤ fuel →
    readItems fuel acc (itemChars (j :: items) ++ rest) =
      some (acc.reverse ++ Document.ofItems (j :: items), rest)
  | j, items, 0, acc, rest, hj, hfuel => by
    obtain ⟨more, hmore⟩ := exists_itemChars j items
    have hpos := length_chars_pos hj.1
    rw [hmore, List.length_append] at hfuel
    omega
  | j, [], fuel + 1, acc, rest, hj, hfuel => by
    have hlength : (chars j).length ≤ fuel := by
      simp only [itemChars, List.length_append, List.length_singleton] at hfuel
      omega
    have hvalue := readValue_chars j fuel (']' :: rest) hj.1 hlength (delimited_cons (by simp))
    rw [itemChars, List.append_assoc, List.singleton_append, readItems_last hvalue]
    rfl
  | j, k :: items, fuel + 1, acc, rest, hj, hfuel => by
    have hpos := length_chars_pos hj.1
    simp only [itemChars, List.length_append, List.length_cons] at hfuel
    have hvalue := readValue_chars j fuel (',' :: (itemChars (k :: items) ++ rest)) hj.1
      (by omega) (delimited_cons (by simp))
    rw [itemChars_cons, readItems_more hvalue,
      readItems_chars k items fuel _ rest hj.2 (by omega)]
    simp [Document.ofItems]

theorem readEntries_chars : ∀ (e : String × Json) (entries : List (String × Json)) (fuel : Nat)
    (acc : List (Option String × Document)) (rest : List Char), IntegralEntries (e :: entries) →
    (entryChars (e :: entries)).length ≤ fuel →
    readEntries fuel acc (entryChars (e :: entries) ++ rest) =
      some (acc.reverse ++ Document.ofEntries (e :: entries), rest)
  | e, entries, 0, acc, rest, _, hfuel => by
    obtain ⟨more, hmore⟩ := exists_entryChars e entries
    simp [hmore, quoteChars] at hfuel
  | (key, j), [], fuel + 1, acc, rest, hj, hfuel => by
    have hlength : (chars j).length ≤ fuel := by
      simp only [entryChars, List.length_append, List.length_cons] at hfuel
      omega
    have hvalue := readValue_chars j fuel ('\x7d' :: rest) hj.1 hlength (delimited_cons (by simp))
    rw [entryChars, List.append_assoc, List.cons_append, List.append_assoc, List.singleton_append,
      readEntries_last hvalue]
    rfl
  | (key, j), e :: entries, fuel + 1, acc, rest, hj, hfuel => by
    simp only [entryChars, List.length_append, List.length_cons] at hfuel
    have hvalue := readValue_chars j fuel (',' :: (entryChars (e :: entries) ++ rest)) hj.1
      (by omega) (delimited_cons (by simp))
    rw [entryChars_cons, readEntries_more hvalue,
      readEntries_chars e entries fuel _ rest hj.2 (by omega)]
    simp [Document.ofEntries]

end

/-- The compact text of a value denotes the document that the value is. -/
theorem document?_compact {j : Json} (hj : j.Integral) :
    document? j.compact = some (Document.ofJson j) := by
  have htext : j.compact.toList = chars j := String.toList_ofList
  have hvalue := readValue_chars j ((chars j).length + 1) [] hj (by omega) delimited_nil
  rw [List.append_nil] at hvalue
  unfold document?
  dsimp only
  rw [htext, hvalue]
  rfl

end GoScaffold.Json
