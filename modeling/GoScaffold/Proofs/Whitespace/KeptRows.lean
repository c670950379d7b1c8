import GoScaffold.Whitespace
import GoScaffold.Proofs.Text.Line
import Mathlib.Data.List.DropRight
import Mathlib.Data.List.GetD
import Mathlib.Data.List.Induction
import Mathlib.Data.List.Range

/-! The rows that normal blank space leaves. Blank rows outside raw strings are loose: one of them
stays if it comes right after a row that is not loose, and if such a row follows later. All other
rows stay. The loop that reads the rows one after another keeps exactly these. -/

namespace GoScaffold.Text

theorem toList_trimEnd (s : String) : (trimEnd s).toList = s.toList.rdropWhile isBlank :=
  String.toList_ofList

theorem isBlankText_trimEnd (s : String) : isBlankText (trimEnd s) = isBlankText s := by
  have hall : (s.toList.rtakeWhile isBlank).all isBlank = true :=
    List.all_eq_true.2 fun c hc => List.mem_rtakeWhile_imp hc
  have hsplit : s.toList.rdropWhile isBlank ++ s.toList.rtakeWhile isBlank = s.toList :=
    List.rdropWhile_append_rtakeWhile
  rw [isBlankText, isBlankText, toList_trimEnd]
  nth_rewrite 2 [← hsplit]
  rw [List.all_append, hall, Bool.and_true]

theorem trimEnd_of_blank {s : String} (h : isBlankText s = true) : trimEnd s = "" := by
  rw [← String.toList_inj, toList_trimEnd]
  exact List.rdropWhile_eq_nil_iff.2 (List.all_eq_true.1 h)

theorem trimEnd_trimEnd (s : String) : trimEnd (trimEnd s) = trimEnd s := by
  rw [← String.toList_inj, toList_trimEnd, toList_trimEnd, List.rdropWhile_idempotent]

theorem mem_of_mem_trimEnd {c : Char} {s : String} (h : c ∈ (trimEnd s).toList) : c ∈ s.toList := by
  rw [toList_trimEnd] at h
  exact (List.rdropWhile_prefix _ _).subset h

end GoScaffold.Text

namespace GoScaffold.Whitespace

open Go (RowSpan)
open Text (isBlankText trimEnd)

section

variable {ls : List String} {spans : List RowSpan} {row : Nat}

def lineAt (ls : List String) (row : Nat) : String := ls.getD row ""

def InRaw (spans : List RowSpan) (row : Nat) : Prop := ∃ s ∈ spans, s.first ≤ row ∧ row ≤ s.last

instance : Decidable (InRaw spans row) :=
  inferInstanceAs (Decidable (∃ s ∈ spans, s.first ≤ row ∧ row ≤ s.last))

/-- Each raw string takes several rows, of which the first and the last one are not blank. -/
def RawIn (ls : List String) (spans : List RowSpan) : Prop :=
  ∀ s ∈ spans, s.first < s.last ∧ isBlankText (lineAt ls s.first) = false ∧
    isBlankText (lineAt ls s.last) = false

def normalLine (ls : List String) (spans : List RowSpan) (row : Nat) : String :=
  if InRaw spans row then lineAt ls row else trimEnd (lineAt ls row)

/-- The row is blank, and no part of a raw string. -/
def IsLoose (ls : List String) (spans : List RowSpan) (row : Nat) : Prop :=
  isBlankText (lineAt ls row) = true ∧ ¬InRaw spans row

instance : Decidable (IsLoose ls spans row) := inferInstanceAs (Decidable (_ ∧ _))

def AfterLoose (ls : List String) (spans : List RowSpan) (row : Nat) : Prop :=
  row = 0 ∨ IsLoose ls spans (row - 1)

instance : Decidable (AfterLoose ls spans row) := inferInstanceAs (Decidable (_ ∨ _))

theorem afterLoose_succ : AfterLoose ls spans (row + 1) ↔ IsLoose ls spans row := by
  simp [AfterLoose]

theorem inRaw_iff (h : RawIn ls spans) :
    InRaw spans row ↔ continuesRaw spans row = true ∨ opensRaw spans row = true := by
  simp only [InRaw, continuesRaw, opensRaw, List.any_eq_true, Bool.and_eq_true,
    decide_eq_true_eq, beq_iff_eq]
  constructor
  · rintro ⟨s, hs, hfirst, hlast⟩
    rcases hfirst.lt_or_eq with hlt | heq
    · exact .inl ⟨s, hs, hlt, hlast⟩
    · exact .inr ⟨s, hs, heq⟩
  · rintro (⟨s, hs, hlt, hlast⟩ | ⟨s, hs, rfl⟩)
    · exact ⟨s, hs, hlt.le, hlast⟩
    · exact ⟨s, hs, le_rfl, (h s hs).1.le⟩

theorem not_blank_of_opensRaw (h : RawIn ls spans) (hopen : opensRaw spans row = true) :
    isBlankText (lineAt ls row) = false := by
  obtain ⟨s, hs, heq⟩ := List.any_eq_true.1 hopen
  exact (beq_iff_eq.1 heq) ▸ (h s hs).2.1

/-! The loop. -/

theorem keptLines_cons_of_not_loose (h : RawIn ls spans) (hrow : ¬IsLoose ls spans row)
    (started blankRun : Bool)
    (rest : List String) : keptLines spans row started blankRun (lineAt ls row :: rest) =
      normalLine ls spans row :: keptLines spans (row + 1) true false rest := by
  rw [keptLines]
  by_cases hcontinues : continuesRaw spans row = true
  · rw [if_pos hcontinues, normalLine, if_pos ((inRaw_iff h).2 (.inl hcontinues))]
  · rw [if_neg hcontinues]
    by_cases hopens : opensRaw spans row = true
    · have hblank := not_blank_of_opensRaw h hopens
      simp [hopens, hblank, normalLine, (inRaw_iff h).2 (.inr hopens)]
    · have hraw : ¬InRaw spans row := fun hin => ((inRaw_iff h).1 hin).elim hcontinues hopens
      have hblank : isBlankText (trimEnd (lineAt ls row)) = false := by
        rw [Text.isBlankText_trimEnd, Bool.eq_false_iff]
        exact fun hblank => hrow ⟨hblank, hraw⟩
      simp [hopens, hblank, normalLine, hraw]

theorem keptLines_cons_of_loose (h : RawIn ls spans) (hrow : IsLoose ls spans row)
    (started blankRun : Bool)
    (rest : List String) : keptLines spans row started blankRun (lineAt ls row :: rest) =
      if blankRun || !started then keptLines spans (row + 1) started blankRun rest
      else normalLine ls spans row :: keptLines spans (row + 1) started true rest := by
  obtain ⟨hblank, hraw⟩ := hrow
  have hcontinues : continuesRaw spans row = false :=
    Bool.eq_false_iff.2 fun h' => hraw ((inRaw_iff h).2 (.inl h'))
  have hopens : opensRaw spans row = false :=
    Bool.eq_false_iff.2 fun h' => hraw ((inRaw_iff h).2 (.inr h'))
  have hempty : trimEnd (lineAt ls row) = "" := Text.trimEnd_of_blank hblank
  have htrimmed : isBlankText "" = true := rfl
  rw [keptLines]
  simp only [hcontinues, hopens, hempty, htrimmed, normalLine, hraw, if_true, if_false,
    Bool.false_eq_true]

def Stays (ls : List String) (spans : List RowSpan) (row : Nat) : Prop :=
  IsLoose ls spans row → ¬AfterLoose ls spans row

instance : Decidable (Stays ls spans row) := inferInstanceAs (Decidable (_ → _))

theorem lineAt_of_lt (hrow : row < ls.length) : lineAt ls row = ls[row] := by
  rw [lineAt, List.getD_eq_getElem _ _ hrow]

theorem keptLines_drop (h : RawIn ls spans) {started blankRun : Bool}
    (hflags : (blankRun || !started) = decide (AfterLoose ls spans row)) :
    keptLines spans row started blankRun (ls.drop row) =
      ((List.range' row (ls.length - row)).filter (Stays ls spans ·)).map
      (normalLine ls spans) := by
  induction hn : ls.length - row generalizing row started blankRun with
  | zero => simp [List.drop_eq_nil_of_le (Nat.sub_eq_zero_iff_le.1 hn), keptLines]
  | succ n ih =>
    have hlt : row < ls.length := by omega
    have hdrop : ls.drop row = lineAt ls row :: ls.drop (row + 1) := by
      rw [lineAt_of_lt hlt, List.drop_eq_getElem_cons hlt]
    have hrest : ls.length - (row + 1) = n := by omega
    rw [hdrop, List.range'_succ]
    by_cases hloose : IsLoose ls spans row
    · have hnext : AfterLoose ls spans (row + 1) := afterLoose_succ.2 hloose
      rw [keptLines_cons_of_loose h hloose, hflags]
      by_cases hafter : AfterLoose ls spans row
      · have hstays : ¬Stays ls spans row := fun hstays => hstays hloose hafter
        rw [if_pos (decide_eq_true hafter), List.filter_cons_of_neg (by simpa using hstays)]
        refine ih ?_ hrest
        rw [hflags, decide_eq_true hafter, decide_eq_true hnext]
      · have hstays : Stays ls spans row := fun _ => hafter
        rw [if_neg (by simpa using hafter), List.filter_cons_of_pos (by simpa using hstays),
          List.map_cons]
        rw [ih (by rw [Bool.true_or, decide_eq_true hnext]) hrest]
    · have hstays : Stays ls spans row := fun h' => absurd h' hloose
      have hnext : ¬AfterLoose ls spans (row + 1) := fun h' => hloose (afterLoose_succ.1 h')
      rw [keptLines_cons_of_not_loose h hloose, List.filter_cons_of_pos (by simpa using hstays),
        List.map_cons]
      rw [ih (by rw [decide_eq_false hnext]; rfl) hrest]

def IsKept (ls : List String) (spans : List RowSpan) (row : Nat) : Prop :=
  IsLoose ls spans row → ¬AfterLoose ls spans row ∧ ∃ later < ls.length, row < later ∧
    ¬IsLoose ls spans later

instance : Decidable (IsKept ls spans row) :=
  inferInstanceAs (Decidable (_ → _ ∧ ∃ later < ls.length, row < later ∧ ¬IsLoose ls spans later))

def keptRows (ls : List String) (spans : List RowSpan) : List Nat :=
  (List.range ls.length).filter (IsKept ls spans ·)

theorem mem_keptRows : row ∈ keptRows ls spans ↔ row < ls.length ∧ IsKept ls spans row := by
  rw [keptRows, List.mem_filter, List.mem_range, decide_eq_true_eq]

theorem isBlankText_normalLine : isBlankText (normalLine ls spans row) =
    isBlankText (lineAt ls row) := by
  unfold normalLine
  split
  · rfl
  · exact Text.isBlankText_trimEnd _

theorem normalLine_of_loose (h : IsLoose ls spans row) : normalLine ls spans row = "" := by
  rw [normalLine, if_neg h.2, Text.trimEnd_of_blank h.1]

theorem lt_length_of_not_blank (h : isBlankText (lineAt ls row) = false) : row < ls.length := by
  by_contra hge
  rw [lineAt, List.getD_eq_default _ _ (not_lt.1 hge)] at h
  cases h

theorem inside_of_blank (h : RawIn ls spans) (hraw : InRaw spans row)
    (hblank : isBlankText (lineAt ls row) = true) :
    ∃ s ∈ spans, s.first < row ∧ row < s.last := by
  obtain ⟨s, hs, hfirst, hlast⟩ := hraw
  obtain ⟨-, hopen, hclose⟩ := h s hs
  refine ⟨s, hs, lt_of_le_of_ne hfirst ?_, lt_of_le_of_ne hlast ?_⟩
  · rintro rfl
    rw [hblank] at hopen
    cases hopen
  · rintro rfl
    rw [hblank] at hclose
    cases hclose

theorem InRaw.lt_length (h : RawIn ls spans) (hraw : InRaw spans row) : row < ls.length := by
  obtain ⟨s, hs, -, hlast⟩ := hraw
  exact hlast.trans_lt (lt_length_of_not_blank (h s hs).2.2)

theorem isKept_of_not_loose (h : ¬IsLoose ls spans row) : IsKept ls spans row :=
  fun h' => absurd h' h

theorem exists_codeEnd (ls : List String) (spans : List RowSpan) (n : Nat) :
    ∃ m ≤ n, (∀ row, m ≤ row → row < n → IsLoose ls spans row) ∧ ∀ k, m = k + 1 →
      ¬IsLoose ls spans k := by
  induction n with
  | zero =>
    exact ⟨0, le_rfl, fun row _ hlt => absurd hlt (Nat.not_lt_zero row), fun k hk => by cases hk⟩
  | succ n ih =>
    by_cases hloose : IsLoose ls spans n
    · obtain ⟨m, hm, hafter, hcode⟩ := ih
      refine ⟨m, hm.trans n.le_succ, fun row hrow hlt => ?_, hcode⟩
      rcases (Nat.lt_succ_iff.1 hlt).lt_or_eq with hlt | rfl
      · exact hafter row hrow hlt
      · exact hloose
    · refine ⟨n + 1, le_rfl, fun row hrow hlt => absurd hrow (not_le.2 hlt), ?_⟩
      rintro k hk
      cases hk
      exact hloose

theorem dropTrailingEmpty_append {before after : List String} {last : String} (hlast : last ≠ "")
    (hafter : ∀ line ∈ after, line = "") : dropTrailingEmpty (before ++ last :: after) =
    before ++ [last] := by
  have hdrop : (before ++ last :: after).rdropWhile String.isEmpty = before ++ [last] := by
    induction after using List.reverseRecOn with
    | nil => exact List.rdropWhile_concat_neg _ _ _ (by simpa using hlast)
    | append_singleton after line ih =>
      have hline : line.isEmpty = true := by simp [hafter line (by simp)]
      rw [← List.cons_append, ← List.append_assoc, List.rdropWhile_concat_pos _ _ _ hline]
      exact ih fun line hline => hafter line (List.mem_append_left _ hline)
  unfold dropTrailingEmpty
  rw [show ((before ++ last :: after).reverse.dropWhile String.isEmpty).reverse = before ++
    [last] from hdrop]
  split
  next heq => simp at heq
  next => rfl

theorem range_split {m n : Nat} (h : m ≤ n) :
    List.range n = List.range m ++ List.range' m (n - m) := by
  have hsplit : List.range' 0 m ++ List.range' (0 + m) (n - m) = List.range' 0 (m + (n - m)) :=
    List.range'_append_1
  rwa [Nat.zero_add, Nat.add_sub_cancel' h, ← List.range_eq_range', ← List.range_eq_range',
    eq_comm] at hsplit

theorem not_isKept_of_loose (h : ∀ later, row ≤ later → later < ls.length → IsLoose ls spans later)
    (hrow : row < ls.length) : ¬IsKept ls spans row := by
  intro hkept
  obtain ⟨-, later, hlater, hlt, hcode⟩ := hkept (h row le_rfl hrow)
  exact hcode (h later hlt.le hlater)

theorem not_blank_of_last (h : RawIn ls spans) (hrow : ¬IsLoose ls spans row)
    (hafter : ∀ later, row < later → later < ls.length → IsLoose ls spans later) :
    isBlankText (lineAt ls row) = false := by
  rw [Bool.eq_false_iff]
  intro hblank
  have hraw : InRaw spans row := by
    by_contra hraw
    exact hrow ⟨hblank, hraw⟩
  obtain ⟨s, hs, hfirst, hlast⟩ := inside_of_blank h hraw hblank
  have hin : InRaw spans s.last := ⟨s, hs, (h s hs).1.le, le_rfl⟩
  exact (hafter s.last hlast (hin.lt_length h)).2 hin

theorem normalLine_ne_empty (h : isBlankText (lineAt ls row) = false) :
    normalLine ls spans row ≠ "" := by
  intro hempty
  have hblank : isBlankText (normalLine ls spans row) = isBlankText (lineAt ls row) :=
    isBlankText_normalLine
  rw [hempty, h] at hblank
  cases hblank

theorem keptLines_eq (h : RawIn ls spans) : keptLines spans 0 false false ls =
    ((List.range ls.length).filter (Stays ls spans ·)).map (normalLine ls spans) := by
  have hdrop := @keptLines_drop ls spans 0 h false false (by simp [AfterLoose])
  rwa [List.drop_zero, Nat.sub_zero, ← List.range_eq_range'] at hdrop

theorem not_stays_of_loose (h : ∀ earlier ≤ row, IsLoose ls spans earlier) :
    ¬Stays ls spans row := by
  intro hstays
  refine hstays (h row le_rfl) ?_
  cases row with
  | zero => exact .inl rfl
  | succ before => exact afterLoose_succ.2 (h before before.le_succ)

theorem stays_iff_isKept {code : Nat} (hlt : code < ls.length) (hcode : ¬IsLoose ls spans code)
    (hrow : row ≤ code) : Stays ls spans row ↔ IsKept ls spans row := by
  refine ⟨fun hstays hloose => ⟨hstays hloose, code, hlt, ?_, hcode⟩, fun hkept hloose =>
    (hkept hloose).1⟩
  exact lt_of_le_of_ne hrow fun heq => hcode (heq ▸ hloose)

theorem dropTrailingEmpty_keptLines (h : RawIn ls spans) :
    dropTrailingEmpty (keptLines spans 0 false false ls) =
    (keptRows ls spans).map (normalLine ls spans) := by
  obtain ⟨m, hm, hafter, hcode⟩ := exists_codeEnd ls spans ls.length
  have hrange : ∀ row ∈ List.range' m (ls.length - m), m ≤ row ∧ row < ls.length := by
    intro row hrow
    have hrow := List.mem_range'_1.1 hrow
    omega
  have hrest : (List.range' m (ls.length - m)).filter (IsKept ls spans ·) = [] := by
    refine List.filter_eq_nil_iff.2 fun row hrow => ?_
    obtain ⟨hle, hlt⟩ := hrange row hrow
    simpa using not_isKept_of_loose (fun later hlater => hafter later (hle.trans hlater)) hlt
  rw [keptLines_eq h, keptRows, range_split hm, List.filter_append, List.filter_append, hrest,
    List.append_nil, List.map_append]
  cases m with
  | zero =>
    -- there is no code, and a loose row stays only after code
    have hnone : (List.range' 0 (ls.length - 0)).filter (Stays ls spans ·) = [] := by
      refine List.filter_eq_nil_iff.2 fun row hrow => ?_
      have hloose : ∀ earlier ≤ row, IsLoose ls spans earlier := fun earlier hle =>
        hafter earlier earlier.zero_le (hle.trans_lt (hrange row hrow).2)
      simpa using not_stays_of_loose hloose
    rw [hnone]
    rfl
  | succ k =>
    have hk : ¬IsLoose ls spans k := hcode k rfl
    have hsame : (List.range (k + 1)).filter (Stays ls spans ·) =
        (List.range (k + 1)).filter (IsKept ls spans ·) :=
      List.filter_congr fun row hrow =>
        decide_eq_decide.2 (stays_iff_isKept hm hk (Nat.lt_succ_iff.1 (List.mem_range.1 hrow)))
    have hlast : normalLine ls spans k ≠ "" := normalLine_ne_empty (not_blank_of_last h hk hafter)
    have hempty : ∀ line ∈ ((List.range' (k + 1) (ls.length - (k + 1))).filter
        (Stays ls spans ·)).map
        (normalLine ls spans), line = "" := by
      refine List.forall_mem_map.2 fun row hrow => ?_
      obtain ⟨hle, hlt⟩ := hrange row (List.mem_of_mem_filter hrow)
      exact normalLine_of_loose (hafter row hle hlt)
    have hkept : IsKept ls spans k := isKept_of_not_loose hk
    rw [hsame, List.range_succ, List.filter_append, List.filter_singleton, decide_eq_true hkept,
      cond_true, List.map_append, List.append_assoc]
    exact dropTrailingEmpty_append hlast hempty

end

end GoScaffold.Whitespace
