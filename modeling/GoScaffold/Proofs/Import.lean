import GoScaffold.Import
import GoScaffold.Proofs.FirstSight
import GoScaffold.Proofs.Text.Line
import Mathlib.Data.List.Infix

/-! The packages that a piece of code refers to. A character that can be in no qualified name cuts
the code into pieces that refer to packages each on its own, so a text that is joined from parts
refers to what its parts refer to. -/

namespace GoScaffold

namespace Import

def continues (c : Char) : Bool := c.isLower || c.isDigit

def selects : List Char → Bool
  | '.' :: c :: _ => startsSelector c
  | _ => false

def qualifies (before : Option Char) (c : Char) (rest : List Char) : Bool :=
  c.isLower && !(before.map Text.isWordCharacter).getD false && selects (rest.dropWhile continues)

theorem qualifiersFrom_cons (before : Option Char) (c : Char) (rest : List Char) :
    qualifiersFrom before 0 (c :: rest) =
      if qualifies before c rest then
        (c :: rest.takeWhile continues) ::
          qualifiersFrom (some c) ((rest.takeWhile continues).length + 2) rest
      else qualifiersFrom (some c) 0 rest := rfl

theorem qualifiersFrom_skip (before : Option Char) (skip : Nat) (c : Char) (rest : List Char) :
    qualifiersFrom before (skip + 1) (c :: rest) = qualifiersFrom (some c) skip rest := rfl

structure Separates (c : Char) : Prop where
  word : Text.isWordCharacter c = false
  dot : c ≠ '.'
  lower : c.isLower = false
  continues : continues c = false
  selector : startsSelector c = false

variable {c : Char} {l r : List Char}

theorem takeWhile_separated (hc : Separates c) :
    (l ++ c :: r).takeWhile continues = l.takeWhile continues := by
  induction l with
  | nil => simp [hc.continues]
  | cons d l ih => simp only [List.cons_append, List.takeWhile_cons, ih]

theorem dropWhile_separated (hc : Separates c) :
    (l ++ c :: r).dropWhile continues = l.dropWhile continues ++ c :: r := by
  induction l with
  | nil => simp [hc.continues]
  | cons d l ih =>
    simp only [List.cons_append, List.dropWhile_cons, ih]
    split <;> rfl

theorem selects_cons_cons (c d : Char) (r : List Char) :
    selects (c :: d :: r) = (c == '.' && startsSelector d) := by
  by_cases hc : c = '.'
  · subst hc
    rfl
  · have hdot : (c == '.') = false := beq_eq_false_iff_ne.2 hc
    rw [hdot, Bool.false_and]
    unfold selects
    split
    next h => exact absurd (List.cons.inj h).1 hc
    next => rfl

theorem selects_singleton (c : Char) : selects [c] = false := by
  unfold selects
  split
  next h => cases (List.cons.inj h).2
  next => rfl

theorem selects_separated (hc : Separates c) : selects (l ++ c :: r) = selects l := by
  have hdot : (c == '.') = false := beq_eq_false_iff_ne.2 hc.dot
  match l with
  | [] =>
    cases r with
    | nil => exact selects_singleton c
    | cons d r =>
      rw [List.nil_append, selects_cons_cons, hdot, Bool.false_and]
      rfl
  | [d] =>
    rw [List.cons_append, List.nil_append, selects_cons_cons, hc.selector, Bool.and_false,
      selects_singleton]
  | d :: e :: l => rw [List.cons_append, List.cons_append, selects_cons_cons, selects_cons_cons]

theorem qualifies_separated (hc : Separates c) (before : Option Char) (d : Char) :
    qualifies before d (l ++ c :: r) = qualifies before d l := by
  rw [qualifies, qualifies, dropWhile_separated hc, selects_separated hc]

theorem length_of_qualifies {before : Option Char} {d : Char} (h : qualifies before d l = true) :
    (l.takeWhile continues).length + 2 ≤ l.length := by
  have hselects : selects (l.dropWhile continues) = true := (Bool.and_eq_true_iff.1 h).2
  have hrest : 2 ≤ (l.dropWhile continues).length := by
    match hd : l.dropWhile continues with
    | [] =>
      rw [hd] at hselects
      cases hselects
    | [d] =>
      rw [hd, selects_singleton] at hselects
      cases hselects
    | _ :: _ :: _ => exact Nat.le_add_left 2 _
  have hlength := congrArg List.length (List.takeWhile_append_dropWhile (p := continues) (l := l))
  rw [List.length_append] at hlength
  omega

theorem qualifiersFrom_separated (hc : Separates c) (code : List Char) :
    qualifiersFrom (some c) 0 code = qualifiersFrom none 0 code := by
  cases code with
  | nil => rfl
  | cons d code =>
    have hsame : qualifies (some c) d code = qualifies none d code := by
      simp [qualifies, hc.word]
    rw [qualifiersFrom_cons, qualifiersFrom_cons, hsame]

theorem qualifiersFrom_append (hc : Separates c) (before : Option Char) {skip : Nat}
    (hskip : skip ≤ l.length) : qualifiersFrom before skip (l ++ c :: r) =
      qualifiersFrom before skip l ++ qualifiersFrom none 0 r := by
  induction l generalizing before skip with
  | nil =>
    obtain rfl : skip = 0 := by simpa using hskip
    have hnot : qualifies before c r = false := by simp [qualifies, hc.lower]
    rw [List.nil_append, qualifiersFrom_cons, hnot]
    exact qualifiersFrom_separated hc r
  | cons d l ih =>
    cases skip with
    | succ skip =>
      rw [List.cons_append, qualifiersFrom_skip, qualifiersFrom_skip]
      exact ih (some d) (Nat.le_of_succ_le_succ hskip)
    | zero =>
      rw [List.cons_append, qualifiersFrom_cons, qualifiersFrom_cons, qualifies_separated hc,
        takeWhile_separated hc]
      split
      next h => rw [ih (some d) (length_of_qualifies h), List.cons_append]
      next => exact ih (some d) (Nat.zero_le _)

instance (c : Char) : Decidable (Separates c) :=
  decidable_of_iff (Text.isWordCharacter c = false ∧ c ≠ '.' ∧ c.isLower = false ∧
      Import.continues c = false ∧ startsSelector c = false)
    ⟨fun ⟨h₁, h₂, h₃, h₄, h₅⟩ => ⟨h₁, h₂, h₃, h₄, h₅⟩, fun ⟨h₁, h₂, h₃, h₄, h₅⟩ =>
      ⟨h₁, h₂, h₃, h₄, h₅⟩⟩

def references (code : String) : List String :=
  (qualifiersFrom none 0 code.toList).map String.ofList

theorem references_empty : references "" = [] := rfl

def Separator (s : String) : Prop := s.toList ≠ [] ∧ ∀ c ∈ s.toList, Separates c

instance (s : String) : Decidable (Separator s) :=
  -- not by going through all characters there are
  have : Decidable (∀ c ∈ s.toList, Separates c) := List.decidableBAll _ s.toList
  inferInstanceAs (Decidable (_ ∧ _))

theorem qualifiersFrom_separators {s : List Char} (hs : ∀ c ∈ s, Separates c) (code : List Char) :
    qualifiersFrom none 0 (s ++ code) = qualifiersFrom none 0 code := by
  induction s with
  | nil => rfl
  | cons c s ih =>
    rw [List.forall_mem_cons] at hs
    exact (qualifiersFrom_append (l := []) hs.1 none (Nat.zero_le _)).trans (ih hs.2)

theorem references_append {sep : String} (hsep : Separator sep) (a b : String) :
    references (a ++ sep ++ b) = references a ++ references b := by
  obtain ⟨c, s, hs⟩ := List.exists_cons_of_ne_nil hsep.1
  have hall := hsep.2
  rw [hs, List.forall_mem_cons] at hall
  unfold references
  rw [String.toList_append, String.toList_append, hs, List.append_assoc, List.cons_append,
    qualifiersFrom_append hall.1 none (Nat.zero_le _), qualifiersFrom_separators hall.2,
    List.map_append]

theorem references_join {sep : String} (hsep : Separator sep) (parts : List String) :
    references (Text.join sep parts) = parts.flatMap references := by
  induction parts with
  | nil => rfl
  | cons first rest ih =>
    cases rest with
    | nil => simp [Text.join]
    | cons second rest =>
      rw [Text.join_cons_cons, references_append hsep, ih]
      rfl

/-! The paths of packages. -/

def mentions (module code : String) : List String := (references code).filterMap (path? module)

theorem scan_eq_eraseDups (module code : String) :
    scan module code = (mentions module code).eraseDups := by
  have hpaths : ((qualifiersFrom none 0 code.toList).filterMap fun name =>
      path? module (String.ofList name)) = mentions module code := by
    rw [mentions, references, List.filterMap_map]
    rfl
  rw [scan, hpaths]
  exact foldl_unless_contains_nil _

theorem mem_scan {module code path : String} :
    path ∈ scan module code ↔ ∃ name ∈ references code, path? module name = some path := by
  rw [scan_eq_eraseDups, List.mem_eraseDups, mentions, List.mem_filterMap]

def known (module : String) : List (String × String) :=
  ("domain", module ++ "/internal/domain") :: ("port", module ++ "/internal/port") ::
    ("errors", module ++ "/internal/pkg/errors") :: packages

theorem path?_eq_lookup (module name : String) :
    path? module name = (known module).lookup name := by
  have hcons (key value : String) (rest : List (String × String)) :
      ((key, value) :: rest).lookup name = if name = key then some value else rest.lookup name := by
    by_cases h : name = key
    · simp [h]
    · rw [List.lookup_cons, beq_eq_false_iff_ne.2 h, if_neg h]
  rw [path?, known, hcons, hcons, hcons]

theorem append_ne_of_not_suffix {module s path : String} (h : ¬s.toList <:+ path.toList) :
    module ++ s ≠ path := by
  rintro rfl
  exact h ⟨module.toList, by rw [String.toList_append]⟩

theorem nodup_known (module : String) : ((known module).map Prod.snd).Nodup := by
  have hmodule : ∀ s ∈ ["/internal/domain", "/internal/port", "/internal/pkg/errors"],
      module ++ s ∉ packages.map Prod.snd := by
    intro s hs hmem
    have hsuffix : ∀ s ∈ ["/internal/domain", "/internal/port", "/internal/pkg/errors"],
        ∀ path ∈ packages.map Prod.snd, ¬s.toList <:+ path.toList := by decide
    exact append_ne_of_not_suffix (hsuffix s hs _ hmem) rfl
  simp only [known, List.map_cons, List.nodup_cons, List.mem_cons, not_or, String.append_right_inj]
  exact ⟨⟨by decide, by decide, hmodule _ (by decide)⟩, ⟨by decide, hmodule _ (by decide)⟩,
    hmodule _ (by decide), by decide⟩

theorem mem_known_of_path? {module name path : String} (h : path? module name = some path) :
    (name, path) ∈ known module := by
  rw [path?_eq_lookup] at h
  obtain ⟨before, after, hknown, -⟩ := List.lookup_eq_some_iff.1 h
  simp [hknown]

theorem path?_eq_iff {module name other path path' : String} (h : path? module name = some path)
    (h' : path? module other = some path') : path = path' ↔ name = other := by
  constructor
  · rintro rfl
    exact congrArg Prod.fst (List.inj_on_of_nodup_map (nodup_known module)
      (mem_known_of_path? h) (mem_known_of_path? h') rfl)
  · rintro rfl
    exact Option.some.inj (h.symm.trans h')

theorem path?_ne {module name path unnamed : String} (h : path? module name = some path)
    (hpackages : unnamed ∉ packages.map Prod.snd)
    (hmodule : ∀ s ∈ ["/internal/domain", "/internal/port", "/internal/pkg/errors"],
      ¬s.toList <:+ unnamed.toList) : path ≠ unnamed := by
  rintro rfl
  have hmem := List.mem_map_of_mem (f := Prod.snd) (mem_known_of_path? h)
  simp only [known, List.map_cons, List.mem_cons] at hmem
  rcases hmem with heq | heq | heq | hmem
  · exact append_ne_of_not_suffix (hmodule _ (by decide)) heq.symm
  · exact append_ne_of_not_suffix (hmodule _ (by decide)) heq.symm
  · exact append_ne_of_not_suffix (hmodule _ (by decide)) heq.symm
  · exact hpackages hmem

end Import

theorem Imports.contains_ofPaths {paths : List String} {path : String} :
    (ofPaths paths).contains path = true ↔ path ∈ paths := by
  simp only [contains, ofPaths, List.contains_iff_mem, List.mem_append, List.mem_filter,
    List.mem_mergeSort, List.mem_eraseDups]
  cases isExternal path <;> simp

end GoScaffold
