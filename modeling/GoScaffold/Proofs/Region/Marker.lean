import GoScaffold.Region
import GoScaffold.Proofs.Text.Fields
import GoScaffold.Proofs.Text.Line

/-! Lines that begin and end regions: how they are laid out, that no line does both, and that a
carriage return at the end of a line changes nothing, since the qualifier is the first word after
the marker. -/

namespace GoScaffold

namespace Text

theorem afterPrefix?_eq_some_iff {p cs rest : List Char} :
    afterPrefix? p cs = some rest ↔ cs = p ++ rest := by
  induction p generalizing cs with
  | nil => simp [afterPrefix?]
  | cons a p ih =>
    cases cs with
    | nil => simp [afterPrefix?]
    | cons c cs =>
      by_cases h : a = c
      · simp [afterPrefix?, h, ih]
      · simp [afterPrefix?, h, Ne.symm h]

theorem afterPrefix?_concat {p cs : List Char} {c : Char} (hc : c ∉ p) :
    afterPrefix? p (cs ++ [c]) = (afterPrefix? p cs).map (· ++ [c]) := by
  induction p generalizing cs with
  | nil => rfl
  | cons a p ih =>
    rw [List.mem_cons, not_or] at hc
    cases cs with
    | nil => simp [afterPrefix?, Ne.symm hc.1]
    | cons d cs =>
      by_cases h : a = d
      · simp [afterPrefix?, h, ih hc.2]
      · simp [afterPrefix?, h]

theorem trimStartChars_concat {c : Char} (hc : isBlank c = true) (cs : List Char) :
    trimStartChars (cs ++ [c]) = trimStartChars cs ++ [c] ∨
      (trimStartChars (cs ++ [c]) = [] ∧ trimStartChars cs = []) := by
  unfold trimStartChars
  rw [List.dropWhile_append]
  split
  next h => exact .inr ⟨by simp [hc], List.isEmpty_iff.1 h⟩
  next => exact .inl rfl

end Text

namespace Region

theorem exists_of_qualifier? {marker line q : String} (h : qualifier? marker line = some q) :
    ∃ rest, withoutLeader line.toList = marker.toList ++ rest := by
  unfold qualifier? at h
  split at h
  next c rest hp => exact ⟨_, Text.afterPrefix?_eq_some_iff.1 hp⟩
  next => cases h

/-- The line has a marker in front: an indentation, the sign of a comment, blanks, the marker, more
blanks and the qualifier, which ends at a blank or with the line. Each part but the marker, the
blanks behind it and the qualifier may be missing. -/
def IsMarked (marker line q : String) : Prop :=
  ∃ indent sign gap blanks tail : List Char,
    line.toList = indent ++ (sign ++ (gap ++ (marker.toList ++ (blanks ++ (q.toList ++ tail))))) ∧
    (∀ c ∈ indent, Text.isBlank c = true) ∧
    (∀ c ∈ sign, Text.isAlphanumeric c = false ∧ Text.isBlank c = false) ∧
    (∀ c ∈ gap, Text.isBlank c = true) ∧
    (blanks ≠ [] ∧ ∀ c ∈ blanks, Text.isBlank c = true) ∧
    (q.toList ≠ [] ∧ ∀ c ∈ q.toList, Text.isBlank c = false) ∧
    ∀ c ∈ tail.head?, Text.isBlank c = true

theorem exists_withoutLeader (cs : List Char) : ∃ indent sign gap : List Char,
    cs = indent ++ (sign ++ (gap ++ withoutLeader cs)) ∧
    (∀ c ∈ indent, Text.isBlank c = true) ∧
    (∀ c ∈ sign, Text.isAlphanumeric c = false ∧ Text.isBlank c = false) ∧
    ∀ c ∈ gap, Text.isBlank c = true := by
  let isSign (c : Char) : Bool := !Text.isAlphanumeric c && !Text.isBlank c
  refine ⟨cs.takeWhile Text.isBlank, (Text.trimStartChars cs).takeWhile isSign,
    ((Text.trimStartChars cs).dropWhile isSign).takeWhile Text.isBlank, ?_,
    fun _ => List.mem_takeWhile_imp, fun c hc => ?_, fun _ => List.mem_takeWhile_imp⟩
  · have hrest : withoutLeader cs = Text.trimStartChars
        ((Text.trimStartChars cs).dropWhile isSign) := rfl
    unfold Text.trimStartChars at hrest ⊢
    rw [hrest, List.takeWhile_append_dropWhile, List.takeWhile_append_dropWhile,
      List.takeWhile_append_dropWhile]
  · simpa [isSign] using List.mem_takeWhile_imp hc

theorem withoutLeader_append {indent sign gap cs : List Char} {c : Char}
    (hindent : ∀ c ∈ indent, Text.isBlank c = true)
    (hsign : ∀ c ∈ sign, Text.isAlphanumeric c = false ∧ Text.isBlank c = false)
    (hgap : ∀ c ∈ gap, Text.isBlank c = true)
    (hletter : Text.isAlphanumeric c = true) (hc : Text.isBlank c = false) :
    withoutLeader (indent ++ (sign ++ (gap ++ c :: cs))) = c :: cs := by
  have hgap' : Text.trimStartChars (gap ++ c :: cs) = c :: cs := by
    rw [Text.trimStartChars, List.dropWhile_append_of_pos hgap,
      List.dropWhile_cons_of_neg (by simp [hc])]
  have hindent' (ds : List Char) : Text.trimStartChars (indent ++ ds) = Text.trimStartChars ds :=
    List.dropWhile_append_of_pos hindent
  unfold withoutLeader
  rw [hindent']
  cases sign with
  | nil =>
    rw [List.nil_append, hgap', List.dropWhile_cons_of_neg (by simp [hletter]), Text.trimStartChars,
      List.dropWhile_cons_of_neg (by simp [hc])]
  | cons s sign =>
    -- the sign ends at the gap, or at the marker if there is no gap
    have hstop : (gap ++ c :: cs).dropWhile (fun d => !Text.isAlphanumeric d && !Text.isBlank d) =
        gap ++ c :: cs := by
      cases gap with
      | nil => simp [hletter]
      | cons g gap => simp [hgap g List.mem_cons_self]
    have hs : Text.trimStartChars (s :: sign ++ (gap ++ c :: cs)) = s :: sign ++ (gap ++ c :: cs) :=
      List.dropWhile_cons_of_neg (by simp [(hsign s List.mem_cons_self).2])
    rw [hs, List.dropWhile_append_of_pos (fun d hd => by simp [hsign d hd]), hstop, hgap']

/-- A marker that starts with a letter is found exactly in front of a line, behind at most the sign
of a comment. -/
theorem qualifier?_eq_some_iff {marker line q : String} {c : Char} {cs : List Char}
    (hmarker : marker.toList = c :: cs) (hletter : Text.isAlphanumeric c = true)
    (hc : Text.isBlank c = false) : qualifier? marker line = some q ↔ IsMarked marker line q := by
  constructor
  · intro h
    obtain ⟨indent, sign, gap, hline, hindent, hsign, hgap⟩ := exists_withoutLeader line.toList
    unfold qualifier? at h
    split at h
    next b rest hfound =>
      split_ifs at h with hb
      obtain ⟨w, hfirst, rfl⟩ := Option.map_eq_some_iff.1 h
      obtain ⟨blanks, tail, rfl, hblanks, hne, hw, htail⟩ := Text.head?_fields_eq_some_iff.1 hfirst
      refine ⟨indent, sign, gap, b :: blanks, tail, ?_, hindent, hsign, hgap,
        ⟨by simp, ?_⟩, ?_, htail⟩
      · rw [hline, Text.afterPrefix?_eq_some_iff.1 hfound, String.toList_ofList, List.cons_append]
      · exact List.forall_mem_cons.2 ⟨hb, hblanks⟩
      · rw [String.toList_ofList]
        exact ⟨hne, hw⟩
    next => cases h
  · rintro ⟨indent, sign, gap, blanks, tail, hline, hindent, hsign, hgap, ⟨hne, hblanks⟩,
      ⟨hq, hword⟩, htail⟩
    obtain ⟨b, blanks, rfl⟩ := List.exists_cons_of_ne_nil hne
    rw [List.forall_mem_cons] at hblanks
    have hrest : withoutLeader line.toList = marker.toList ++
        (b :: blanks ++ (q.toList ++ tail)) := by
      rw [hline, hmarker]
      exact withoutLeader_append hindent hsign hgap hletter hc
    have hfirst : (Text.fields Text.isBlank (blanks ++ (q.toList ++ tail))).head? = some q.toList :=
      Text.head?_fields_eq_some_iff.2 ⟨blanks, tail, rfl, hblanks.2, hq, hword, htail⟩
    unfold qualifier?
    rw [Text.afterPrefix?_eq_some_iff.2 hrest]
    simp [hblanks.1, hfirst]

theorem begins?_eq_some_iff {line q : String} :
    begins? line = some q ↔ IsMarked beginMarker line q :=
  qualifier?_eq_some_iff rfl (by decide) (by decide)

theorem ends?_eq_some_iff {line q : String} : ends? line = some q ↔ IsMarked endMarker line q :=
  qualifier?_eq_some_iff rfl (by decide) (by decide)

example : begins? "\t// ANG:BEGIN_CUSTOM Save of the user" = some "Save" := by decide

theorem ends?_of_begins? {line q : String} (h : begins? line = some q) : ends? line = none := by
  obtain ⟨rest, hb⟩ := exists_of_qualifier? h
  cases he : ends? line with
  | none => rfl
  | some p =>
    obtain ⟨rest', he⟩ := exists_of_qualifier? he
    have hne := hb.symm.trans he
    simp [beginMarker, endMarker] at hne

theorem begins?_of_ends? {line q : String} (h : ends? line = some q) : begins? line = none := by
  cases hb : begins? line with
  | none => rfl
  | some p => rw [ends?_of_begins? hb] at h; cases h

theorem withoutLeader_concat {c : Char} (hc : Text.isBlank c = true) (cs : List Char) :
    withoutLeader (cs ++ [c]) = withoutLeader cs ++ [c] ∨
      (withoutLeader (cs ++ [c]) = [] ∧ withoutLeader cs = []) := by
  unfold withoutLeader
  rcases Text.trimStartChars_concat hc cs with h | ⟨h, h'⟩
  · -- the leader ends before the blank, whether anything follows it or not
    have hdrop : ∀ ds : List Char, (ds ++ [c]).dropWhile (fun d => !Text.isAlphanumeric d &&
        !Text.isBlank d) =
        ds.dropWhile (fun d => !Text.isAlphanumeric d && !Text.isBlank d) ++ [c] := by
      intro ds
      rw [List.dropWhile_append]
      split
      next hd => simp [List.isEmpty_iff.1 hd, hc]
      next => rfl
    rw [h, hdrop]
    exact Text.trimStartChars_concat hc _
  · rw [h, h']
    exact .inr ⟨rfl, rfl⟩

theorem qualifier?_concat {marker : String} {c : Char} (hm : c ∉ marker.toList)
    (hc : Text.isBlank c = true)
    (cs : List Char) : qualifier? marker (String.ofList (cs ++ [c])) =
    qualifier? marker (String.ofList cs) := by
  unfold qualifier?
  rw [String.toList_ofList, String.toList_ofList]
  rcases withoutLeader_concat hc cs with h | ⟨h, h'⟩
  · rw [h, Text.afterPrefix?_concat hm]
    cases Text.afterPrefix? marker.toList (withoutLeader cs) with
    | none => rfl
    | some rest =>
      cases rest with
      | nil => simp [hc, Text.fields]
      | cons d rest => simp only [Option.map_some, List.cons_append, Text.fields_concat hc]
  · rw [h, h']

theorem qualifier?_withoutReturn {marker : String} (hm : '\r' ∉ marker.toList) (l : String) :
    qualifier? marker (Text.withoutReturn l) = qualifier? marker l := by
  unfold Text.withoutReturn
  by_cases hr : l.toList.getLast? = some '\r'
  · obtain ⟨k, hk⟩ := List.getLast?_eq_some_iff.1 hr
    have hl : l = String.ofList (k ++ ['\r']) := by rw [← hk, String.ofList_toList]
    rw [hl, qualifier?_concat hm (by decide), String.toList_ofList]
    simp [Text.dropReturn]
  · rw [Text.dropReturn_eq_self hr, String.ofList_toList]

@[simp] theorem begins?_withoutReturn (l : String) : begins? (Text.withoutReturn l) = begins? l :=
  qualifier?_withoutReturn (by decide) l

@[simp] theorem ends?_withoutReturn (l : String) : ends? (Text.withoutReturn l) = ends? l :=
  qualifier?_withoutReturn (by decide) l

end Region

end GoScaffold
