import GoScaffold.Proofs.Whitespace.KeptRows

/-! The normal form of blank space. Raw strings stay as they are, all other lines that are not blank
lose the blanks at their ends, and of the blank lines around them at most one stays between two
others. A normal form is its own normal form, once its raw strings are looked for where they have
gone. -/

namespace GoScaffold.Whitespace

open Go (RowSpan)
open Text (isBlankText trimEnd)

section

variable {ls : List String} {spans : List RowSpan} {row : Nat}

/-- The rows that a normal form has, in their order. -/
structure Keeps (ls : List String) (spans : List RowSpan) (rows : List Nat) : Prop where
  increasing : rows.Pairwise (· < ·)
  within : ∀ row ∈ rows, row < ls.length
  /-- The rows of a raw string stay together. -/
  raw : ∀ s ∈ spans, ∃ before after, rows = before ++ List.range' s.first (s.last + 1 - s.first) ++
      after
  written : ∀ row, isBlankText (lineAt ls row) = false → row ∈ rows
  first : ∀ row, rows.head? = some row → isBlankText (normalLine ls spans row) = false
  last : ∀ row, rows.getLast? = some row → isBlankText (normalLine ls spans row) = false
  /-- Two blank lines follow each other only within raw strings. -/
  apart : ∀ before row next after, rows = before ++ row :: next :: after →
    isBlankText (normalLine ls spans row) = true → isBlankText (normalLine ls spans next) = true →
    InRaw spans row ∧ InRaw spans next

theorem pairwise_keptRows : (keptRows ls spans).Pairwise (· < ·) := List.pairwise_lt_range.filter _

theorem mem_keptRows_of_not_blank (hblank : isBlankText (lineAt ls row) = false) :
    row ∈ keptRows ls spans := by
  refine mem_keptRows.2 ⟨lt_length_of_not_blank hblank, isKept_of_not_loose fun hloose => ?_⟩
  rw [hloose.1] at hblank
  cases hblank

theorem neighbours_of_loose (hmem : row ∈ keptRows ls spans) (hloose : IsLoose ls spans row) :
    ∃ before, row = before + 1 ∧ ¬IsLoose ls spans before ∧ before ∈ keptRows ls spans ∧
      ∃ later ∈ keptRows ls spans, row < later := by
  obtain ⟨hlt, hkept⟩ := mem_keptRows.1 hmem
  obtain ⟨hafter, later, hlater, hrow, hcode⟩ := hkept hloose
  cases row with
  | zero => exact absurd (.inl rfl) hafter
  | succ before =>
    have hbefore : ¬IsLoose ls spans before := fun h => hafter (afterLoose_succ.2 h)
    exact ⟨before, rfl, hbefore, mem_keptRows.2 ⟨by omega, isKept_of_not_loose hbefore⟩, later,
      mem_keptRows.2 ⟨hlater, isKept_of_not_loose hcode⟩, hrow⟩

theorem exists_around_of_blank (h : RawIn ls spans) (hmem : row ∈ keptRows ls spans)
    (hblank : isBlankText (lineAt ls row) = true) :
    (∃ earlier ∈ keptRows ls spans, earlier < row) ∧ ∃ later ∈ keptRows ls spans, row < later := by
  by_cases hraw : InRaw spans row
  · obtain ⟨s, hs, hfirst, hlast⟩ := inside_of_blank h hraw hblank
    obtain ⟨-, hopen, hclose⟩ := h s hs
    exact ⟨⟨s.first, mem_keptRows_of_not_blank hopen, hfirst⟩, s.last,
      mem_keptRows_of_not_blank hclose, hlast⟩
  · obtain ⟨before, rfl, -, hbefore, hlater⟩ := neighbours_of_loose hmem ⟨hblank, hraw⟩
    exact ⟨⟨before, hbefore, before.lt_succ_self⟩, hlater⟩

theorem keptRows_raw (h : RawIn ls spans) {s : RowSpan} (hs : s ∈ spans) :
    ∃ before after, keptRows ls spans = before ++ List.range' s.first (s.last + 1 - s.first) ++
      after := by
  have hlast : s.last + 1 ≤ ls.length := lt_length_of_not_blank (h s hs).2.2
  have hfirst : s.first ≤ s.last + 1 := (h s hs).1.le.trans (Nat.le_succ _)
  have hall : (List.range' s.first (s.last + 1 - s.first)).filter (IsKept ls spans ·) =
      List.range' s.first (s.last + 1 - s.first) := by
    refine List.filter_eq_self.2 fun row hrow => ?_
    have hrow := List.mem_range'_1.1 hrow
    have hraw : InRaw spans row := ⟨s, hs, hrow.1, by omega⟩
    exact decide_eq_true (isKept_of_not_loose fun hloose => hloose.2 hraw)
  rw [keptRows, range_split hlast, range_split hfirst, List.filter_append, List.filter_append, hall]
  exact ⟨_, _, rfl⟩

theorem le_of_lt_next {before after : List Nat} {row next x : Nat}
    (hsorted : (before ++ row :: next :: after).Pairwise (· < ·))
    (hx : x ∈ before ++ row :: next :: after)
    (hlt : x < next) : x ≤ row := by
  simp only [List.pairwise_append, List.pairwise_cons, List.mem_append, List.mem_cons] at hsorted hx
  rcases hx with hx | rfl | rfl | hx
  · exact (hsorted.2.2 x hx row (.inl rfl)).le
  · exact le_rfl
  · exact absurd hlt (lt_irrefl _)
  · exact absurd hlt (hsorted.2.1.2.1 x hx).asymm

theorem keeps_keptRows (h : RawIn ls spans) : Keeps ls spans (keptRows ls spans) where
  increasing := pairwise_keptRows
  within row hrow := (mem_keptRows.1 hrow).1
  raw s hs := keptRows_raw h hs
  written row hrow := mem_keptRows_of_not_blank hrow
  first row hhead := by
    rw [isBlankText_normalLine, Bool.eq_false_iff]
    intro hblank
    obtain ⟨rest, hrows⟩ := List.head?_eq_some_iff.1 hhead
    obtain ⟨⟨earlier, hmem, hlt⟩, -⟩ := exists_around_of_blank h (List.mem_of_head? hhead) hblank
    have hsorted : (row :: rest).Pairwise (· < ·) := hrows ▸ pairwise_keptRows
    rcases List.mem_cons.1 (hrows ▸ hmem) with rfl | hrest
    · exact lt_irrefl _ hlt
    · exact hlt.asymm ((List.pairwise_cons.1 hsorted).1 earlier hrest)
  last row hlast := by
    rw [isBlankText_normalLine, Bool.eq_false_iff]
    intro hblank
    obtain ⟨rest, hrows⟩ := List.getLast?_eq_some_iff.1 hlast
    obtain ⟨-, later, hmem, hlt⟩ := exists_around_of_blank h (List.mem_of_getLast? hlast) hblank
    have hsorted : (rest ++ [row]).Pairwise (· < ·) := hrows ▸ pairwise_keptRows
    rcases List.mem_append.1 (hrows ▸ hmem) with hrest | hrest
    · exact hlt.asymm ((List.pairwise_append.1 hsorted).2.2 later hrest row List.mem_cons_self)
    · exact hlt.ne (List.mem_singleton.1 hrest).symm
  apart before row next after hrows hblank hnext := by
    rw [isBlankText_normalLine] at hblank hnext
    have hsorted : (before ++ row :: next :: after).Pairwise (· < ·) := hrows ▸ pairwise_keptRows
    have hle : ∀ x ∈ keptRows ls spans, x < next → x ≤ row :=
      fun x hx => le_of_lt_next hsorted (hrows ▸ hx)
    have hlt : row < next := by
      simp only [List.pairwise_append, List.pairwise_cons, List.mem_cons] at hsorted
      exact hsorted.2.1.1 next (.inl rfl)
    by_cases hraw : InRaw spans next
    · obtain ⟨s, hs, hfirst, hlast⟩ := inside_of_blank h hraw hnext
      have hle' := hle s.first (mem_keptRows_of_not_blank (h s hs).2.1) hfirst
      exact ⟨⟨s, hs, hle', (hlt.trans hlast).le⟩, hraw⟩
    · -- the row before the loose one is not loose but blank, so a raw string goes on there
      exfalso
      have hmem : next ∈ keptRows ls spans := hrows ▸ by simp
      obtain ⟨prior, rfl, hprior, hkept, -⟩ := neighbours_of_loose hmem ⟨hnext, hraw⟩
      have heq : prior = row :=
        le_antisymm (hle prior hkept prior.lt_succ_self) (Nat.lt_succ_iff.1 hlt)
      subst heq
      have hin : InRaw spans prior := by
        by_contra hin
        exact hprior ⟨hblank, hin⟩
      obtain ⟨s, hs, hfirst, hlast⟩ := inside_of_blank h hin hblank
      exact hraw ⟨s, hs, (hfirst.trans hlt).le, hlast⟩

/-! The normal form is its own normal form. -/

def moved (rows : List Nat) (s : RowSpan) : RowSpan := ⟨rows.idxOf s.first, rows.idxOf s.last⟩

end

section

variable {ls : List String} {spans : List RowSpan} {rows : List Nat} {row i : Nat}

theorem getElem_lt_getElem_iff (hsorted : rows.Pairwise (· < ·)) {j : Nat} (hi : i < rows.length)
    (hj : j < rows.length) : rows[i] < rows[j] ↔ i < j := by
  have hmono := List.pairwise_iff_getElem.1 hsorted
  rcases lt_trichotomy i j with hlt | rfl | hgt
  · exact iff_of_true (hmono i j hi hj hlt) hlt
  · exact iff_of_false (lt_irrefl _) (lt_irrefl _)
  · exact iff_of_false (hmono j i hj hi hgt).asymm hgt.asymm

theorem idxOf_le_iff (hsorted : rows.Pairwise (· < ·)) (hrow : row ∈ rows) (hi : i < rows.length) :
    rows.idxOf row ≤ i ↔ row ≤ rows[i] := by
  have hidx : rows.idxOf row < rows.length := List.idxOf_lt_length_iff.2 hrow
  have hget : rows[rows.idxOf row] = row := List.getElem_idxOf hidx
  rw [← not_lt, ← not_lt, ← getElem_lt_getElem_iff hsorted hi hidx, hget]

theorem le_idxOf_iff (hsorted : rows.Pairwise (· < ·)) (hrow : row ∈ rows) (hi : i < rows.length) :
    i ≤ rows.idxOf row ↔ rows[i] ≤ row := by
  have hidx : rows.idxOf row < rows.length := List.idxOf_lt_length_iff.2 hrow
  have hget : rows[rows.idxOf row] = row := List.getElem_idxOf hidx
  rw [← not_lt, ← not_lt, ← getElem_lt_getElem_iff hsorted hidx hi, hget]

theorem lineAt_map (f : Nat → String) (hi : i < rows.length) :
    lineAt (rows.map f) i = f rows[i] := by
  rw [lineAt_of_lt (by rwa [List.length_map]), List.getElem_map]

namespace Keeps

theorem first_mem (hk : Keeps ls spans rows) (h : RawIn ls spans) {s : RowSpan} (hs : s ∈ spans) :
    s.first ∈ rows :=
  hk.written s.first (h s hs).2.1

theorem last_mem (hk : Keeps ls spans rows) (h : RawIn ls spans) {s : RowSpan} (hs : s ∈ spans) :
    s.last ∈ rows :=
  hk.written s.last (h s hs).2.2

theorem inRaw_moved (hk : Keeps ls spans rows) (h : RawIn ls spans) (hi : i < rows.length) :
    InRaw (spans.map (moved rows)) i ↔ InRaw spans rows[i] := by
  simp only [InRaw, List.mem_map, exists_exists_and_eq_and, moved]
  refine exists_congr fun s => and_congr_right fun hs => ?_
  rw [idxOf_le_iff hk.increasing (hk.first_mem h hs) hi,
    le_idxOf_iff hk.increasing (hk.last_mem h hs) hi]

theorem isLoose_moved (hk : Keeps ls spans rows) (h : RawIn ls spans) (hi : i < rows.length) :
    IsLoose (rows.map (normalLine ls spans)) (spans.map (moved rows)) i ↔
    IsLoose ls spans rows[i] := by
  rw [IsLoose, lineAt_map _ hi, isBlankText_normalLine, hk.inRaw_moved h hi, IsLoose]

theorem rawIn_moved (hk : Keeps ls spans rows) (h : RawIn ls spans) :
    RawIn (rows.map (normalLine ls spans)) (spans.map (moved rows)) := by
  intro s' hs'
  obtain ⟨s, hs, rfl⟩ := List.mem_map.1 hs'
  obtain ⟨hlt, hopen, hclose⟩ := h s hs
  have hline : ∀ row ∈ rows, isBlankText (lineAt (rows.map (normalLine ls spans))
      (rows.idxOf row)) =
      isBlankText (lineAt ls row) := by
    intro row hrow
    have hidx : rows.idxOf row < rows.length := List.idxOf_lt_length_iff.2 hrow
    rw [lineAt_map _ hidx, List.getElem_idxOf, isBlankText_normalLine]
  have hlast : rows.idxOf s.last < rows.length := List.idxOf_lt_length_iff.2 (hk.last_mem h hs)
  refine ⟨?_, (hline _ (hk.first_mem h hs)).trans hopen, (hline _ (hk.last_mem h hs)).trans hclose⟩
  have hfirst : rows.idxOf s.first < rows.length := List.idxOf_lt_length_iff.2 (hk.first_mem h hs)
  have hgets : rows[rows.idxOf s.first] < rows[rows.idxOf s.last] := by
    rwa [List.getElem_idxOf, List.getElem_idxOf]
  exact (getElem_lt_getElem_iff hk.increasing hfirst hlast).1 hgets

theorem isKept_moved (hk : Keeps ls spans rows) (h : RawIn ls spans) (hi : i < rows.length) :
    IsKept (rows.map (normalLine ls spans)) (spans.map (moved rows)) i := by
  intro hloose
  rw [hk.isLoose_moved h hi] at hloose
  have hblank : isBlankText (normalLine ls spans rows[i]) = true :=
    isBlankText_normalLine.trans hloose.1
  have hend : rows.length - 1 < rows.length := by omega
  have hlast : isBlankText (normalLine ls spans rows[rows.length - 1]) = false :=
    hk.last _ (by rw [List.getLast?_eq_getElem?, List.getElem?_eq_getElem hend])
  refine ⟨?_, rows.length - 1, by simpa using hend, ?_, ?_⟩
  · cases i with
    | zero =>
      have hfirst := hk.first rows[0] (by rw [List.head?_eq_getElem?, List.getElem?_eq_getElem hi])
      rw [hblank] at hfirst
      cases hfirst
    | succ k =>
      have hprior : k < rows.length := by omega
      rw [afterLoose_succ, hk.isLoose_moved h hprior]
      intro hbefore
      have hsplit : rows = rows.take k ++ rows[k] :: rows[k + 1] :: rows.drop (k + 1 + 1) := by
        rw [← List.drop_eq_getElem_cons hi, ← List.drop_eq_getElem_cons hprior,
          List.take_append_drop]
      have hraw := hk.apart _ _ _ _ hsplit (isBlankText_normalLine.trans hbefore.1) hblank
      exact hloose.2 hraw.2
  · refine lt_of_le_of_ne (by omega) fun heq => ?_
    subst heq
    rw [hblank] at hlast
    cases hlast
  · rw [hk.isLoose_moved h hend]
    intro hloose
    rw [isBlankText_normalLine, hloose.1] at hlast
    cases hlast

theorem normalLine_moved (hk : Keeps ls spans rows) (h : RawIn ls spans) (hi : i < rows.length) :
    normalLine (rows.map (normalLine ls spans)) (spans.map (moved rows)) i =
    normalLine ls spans rows[i] := by
  by_cases hraw : InRaw spans rows[i]
  · rw [normalLine, if_pos ((hk.inRaw_moved h hi).2 hraw), lineAt_map _ hi]
  · rw [normalLine, if_neg (mt (hk.inRaw_moved h hi).1 hraw), lineAt_map _ hi,
      normalLine, if_neg hraw, Text.trimEnd_trimEnd]

theorem keptLines_moved (hk : Keeps ls spans rows) (h : RawIn ls spans) :
    dropTrailingEmpty (keptLines (spans.map (moved rows)) 0 false false
      (rows.map (normalLine ls spans))) =
      rows.map (normalLine ls spans) := by
  have hall : keptRows (rows.map (normalLine ls spans)) (spans.map (moved rows)) =
      List.range rows.length := by
    rw [keptRows, List.length_map]
    exact List.filter_eq_self.2 fun i hi => decide_eq_true (hk.isKept_moved h (List.mem_range.1 hi))
  rw [dropTrailingEmpty_keptLines (hk.rawIn_moved h), hall]
  refine List.ext_getElem (by simp) fun i hi _ => ?_
  have hi : i < rows.length := by simpa using hi
  rw [List.getElem_map, List.getElem_range, List.getElem_map, hk.normalLine_moved h hi]

end Keeps

end

/-! Whole texts. -/

section

variable {text : String} {spans : List RowSpan} {c : Char}

theorem normalize_eq (h : RawIn (Text.lines text) spans) : normalize text spans =
    Text.unlines ((keptRows (Text.lines text) spans).map (normalLine (Text.lines text) spans)) := by
  rw [normalize, dropTrailingEmpty_keptLines h]

theorem not_mem_normalLine {ls : List String} {row : Nat} (h : ∀ l ∈ ls, c ∉ l.toList) :
    c ∉ (normalLine ls spans row).toList := by
  have hline : c ∉ (lineAt ls row).toList := by
    by_cases hrow : row < ls.length
    · rw [lineAt_of_lt hrow]
      exact h _ (List.getElem_mem hrow)
    · rw [lineAt, List.getD_eq_default _ _ (not_lt.1 hrow)]
      exact List.not_mem_nil
  unfold normalLine
  split
  · exact hline
  · exact fun hc => hline (Text.mem_of_mem_trimEnd hc)

theorem lines_normalize (hreturn : '\r' ∉ text.toList) (h : RawIn (Text.lines text) spans) :
    Text.lines (normalize text spans) =
      (keptRows (Text.lines text) spans).map (normalLine (Text.lines text) spans) := by
  rw [normalize_eq h]
  apply Text.lines_unlines
  · exact List.forall_mem_map.2 fun row _ => not_mem_normalLine fun l => Text.newline_not_mem_lines
  · exact List.forall_mem_map.2 fun row _ => not_mem_normalLine fun l => Text.not_mem_lines hreturn

theorem toList_unlines_concat (ls : List String) (l : String) :
    (Text.unlines (ls ++ [l])).toList = (Text.unlines ls).toList ++ l.toList ++ ['\n'] := by
  simp [Text.unlines]

theorem endsWith_unlines {ls : List String} {l : String} (hl : l ≠ "") (hn : '\n' ∉ l.toList) :
    Text.endsWith (Text.unlines (ls ++ [l])) "\n" = true ∧
      Text.endsWith (Text.unlines (ls ++ [l])) "\n\n" = false := by
  have hne : l.toList ≠ [] := fun h => hl (String.toList_inj.1 h)
  obtain ⟨cs, c, hcs⟩ : ∃ cs c, l.toList = cs ++ [c] :=
    ⟨_, _, (List.dropLast_concat_getLast hne).symm⟩
  have hc : '\n' ≠ c := by
    rintro rfl
    exact hn (by simp [hcs])
  unfold Text.endsWith
  rw [toList_unlines_concat, hcs]
  simp [Text.afterPrefix?, hc]

/-- Without carriage returns, and with raw strings that begin and end in rows that are not blank:
raw strings stay as they are, all other lines stay without the blanks at their ends, and of the
blank ones none stays at either end or next to another one. A text that is not empty has one line
feed at its end. The result is its own normal form, with its raw strings where they have been moved
to. -/
theorem normalize_exact (hreturn : '\r' ∉ text.toList) (h : RawIn (Text.lines text) spans) :
    ∃ rows, Keeps (Text.lines text) spans rows ∧
      Text.lines (normalize text spans) = rows.map (normalLine (Text.lines text) spans) ∧
      (normalize text spans = "" ∨
        Text.endsWith (normalize text spans) "\n" = true ∧
        Text.endsWith (normalize text spans) "\n\n" = false) ∧
      normalize (normalize text spans) (spans.map (moved rows)) = normalize text spans := by
  have hkeeps : Keeps (Text.lines text) spans (keptRows (Text.lines text) spans) := keeps_keptRows h
  refine ⟨_, hkeeps, lines_normalize hreturn h, ?_, ?_⟩
  · rw [normalize_eq h]
    rcases List.eq_nil_or_concat' (keptRows (Text.lines text) spans) with hnone | ⟨rows, row, hrows⟩
    · exact .inl (by rw [hnone]; rfl)
    · have hlast := hkeeps.last row (by rw [hrows, List.getLast?_concat])
      rw [hrows, List.map_append, List.map_singleton]
      refine .inr (endsWith_unlines ?_ (not_mem_normalLine fun l => Text.newline_not_mem_lines))
      intro hempty
      rw [hempty] at hlast
      cases hlast
  · rw [normalize, lines_normalize hreturn h, hkeeps.keptLines_moved h, normalize_eq h]

end

instance (ls : List String) (spans : List RowSpan) : Decidable (RawIn ls spans) :=
  inferInstanceAs (Decidable (∀ s ∈ spans, _ ∧ _ ∧ _))

def twoRaw : String := "x  \n\n\na` \n\nb`+` \nc`\n \n"

theorem normalize_exact_twoRaw :
    '\r' ∉ twoRaw.toList ∧ RawIn (Text.lines twoRaw) [⟨3, 5⟩, ⟨5, 6⟩] ∧
      normalize twoRaw [⟨3, 5⟩, ⟨5, 6⟩] = "x\n\na` \n\nb`+` \nc`\n" ∧
      ∃ rows, Keeps (Text.lines twoRaw) [⟨3, 5⟩, ⟨5, 6⟩] rows ∧
        normalize (normalize twoRaw [⟨3, 5⟩, ⟨5, 6⟩]) [moved rows ⟨3, 5⟩, moved rows ⟨5, 6⟩] =
          normalize twoRaw [⟨3, 5⟩, ⟨5, 6⟩] := by
  have hraw : RawIn (Text.lines twoRaw) [⟨3, 5⟩, ⟨5, 6⟩] := by decide +kernel
  have hreturn : '\r' ∉ twoRaw.toList := by decide +kernel
  obtain ⟨rows, hkeeps, -, -, hagain⟩ := normalize_exact hreturn hraw
  exact ⟨hreturn, hraw, by decide +kernel, rows, hkeeps, hagain⟩

end GoScaffold.Whitespace
