import GoScaffold.Text.Blank
import Mathlib.Data.List.TakeWhile

/-! The fields of a text, its maximal runs without separators. -/

namespace GoScaffold.Text

variable {sep : Char → Bool} {c : Char} {w tail : List Char}

theorem fields_cons_sep (hc : sep c = true) (cs : List Char) :
    fields sep (c :: cs) = fields sep cs := by
  conv => lhs; unfold fields
  rw [if_pos hc]

theorem fields_of_none (hne : w ≠ []) (hw : ∀ c ∈ w, sep c = false) : fields sep w = [w] := by
  induction w with
  | nil => exact absurd rfl hne
  | cons c w ih =>
    rw [List.forall_mem_cons] at hw
    cases w with
    | nil => simp [fields, hw.1]
    | cons d w =>
      have hd := (List.forall_mem_cons.1 hw.2).1
      conv => lhs; unfold fields
      rw [ih (List.cons_ne_nil _ _) hw.2]
      simp [hw.1, hd]

theorem fields_append_sep (hne : w ≠ []) (hw : ∀ c ∈ w, sep c = false) (hc : sep c = true)
    (cs : List Char) : fields sep (w ++ c :: cs) = w :: fields sep cs := by
  induction w with
  | nil => exact absurd rfl hne
  | cons d w ih =>
    rw [List.forall_mem_cons] at hw
    cases w with
    | nil =>
      conv => lhs; rw [List.singleton_append]; unfold fields
      rw [fields_cons_sep hc]
      cases fields sep cs <;> simp [hw.1, hc]
    | cons e w =>
      have he := (List.forall_mem_cons.1 hw.2).1
      conv => lhs; rw [List.cons_append, List.cons_append]; unfold fields
      rw [← List.cons_append, ih (List.cons_ne_nil _ _) hw.2]
      simp [hw.1, he]

theorem fields_cons_cons (sep : Char → Bool) (c d : Char) (cs : List Char) :
    fields sep (c :: d :: cs) =
      if sep c then fields sep (d :: cs)
      else match fields sep (d :: cs) with
        | w :: ws => if sep d then [c] :: w :: ws else (c :: w) :: ws
        | [] => [[c]] := by
  conv => lhs; unfold fields
  cases fields sep (d :: cs) <;> rfl

theorem fields_concat (hc : sep c = true) (cs : List Char) :
    fields sep (cs ++ [c]) = fields sep cs := by
  induction cs with
  | nil => simp [fields, hc]
  | cons d cs ih =>
    cases cs with
    | nil => simp [fields, hc]
    | cons a cs =>
      rw [List.cons_append] at ih
      rw [List.cons_append, List.cons_append, fields_cons_cons, fields_cons_cons, ih]

theorem fields_append_of_sep {before : List Char} (h : ∀ c ∈ before, sep c = true)
    (cs : List Char) : fields sep (before ++ cs) = fields sep cs := by
  induction before with
  | nil => rfl
  | cons c before ih =>
    rw [List.forall_mem_cons] at h
    rw [List.cons_append, fields_cons_sep h.1, ih h.2]

theorem head?_fields_append (hne : w ≠ []) (hw : ∀ c ∈ w, sep c = false)
    (htail : ∀ c ∈ tail.head?, sep c = true) : (fields sep (w ++ tail)).head? = some w := by
  cases tail with
  | nil => rw [List.append_nil, fields_of_none hne hw, List.head?_cons]
  | cons c tail => rw [fields_append_sep hne hw (htail c rfl), List.head?_cons]

theorem head?_dropWhile (p : Char → Bool) (cs : List Char) :
    ∀ c ∈ (cs.dropWhile p).head?, p c = false := by
  intro c hc
  have hnot := List.head?_dropWhile_not p cs
  rwa [hc] at hnot

/-- Only separators stand before the first field, which ends at a separator or with the text. -/
theorem head?_fields_eq_some_iff {cs : List Char} : (fields sep cs).head? = some w ↔
    ∃ before tail, cs = before ++ (w ++ tail) ∧ (∀ c ∈ before, sep c = true) ∧ w ≠ [] ∧
      (∀ c ∈ w, sep c = false) ∧ ∀ c ∈ tail.head?, sep c = true := by
  constructor
  · intro hfirst
    obtain ⟨before, rest, rfl, hbefore, hrest⟩ : ∃ before rest, cs = before ++ rest ∧
        (∀ c ∈ before, sep c = true) ∧ ∀ c ∈ rest.head?, sep c = false :=
      ⟨_, _, List.takeWhile_append_dropWhile.symm, fun _ => List.mem_takeWhile_imp,
        head?_dropWhile sep cs⟩
    rw [fields_append_of_sep hbefore] at hfirst
    obtain ⟨v, tail, rfl, hv, htail⟩ : ∃ v tail, rest = v ++ tail ∧
        (∀ c ∈ v, sep c = false) ∧ ∀ c ∈ tail.head?, sep c = true :=
      ⟨_, _, (List.takeWhile_append_dropWhile (p := (!sep ·))).symm,
        fun c hc => by simpa using List.mem_takeWhile_imp hc,
        fun c hc => by simpa using head?_dropWhile (!sep ·) rest c hc⟩
    have hne : v ≠ [] := by
      rintro rfl
      cases tail with
      | nil => cases hfirst
      | cons c tail => exact Bool.noConfusion ((hrest c rfl).symm.trans (htail c rfl))
    obtain rfl : v = w := Option.some.inj ((head?_fields_append hne hv htail).symm.trans hfirst)
    exact ⟨before, tail, rfl, hbefore, hne, hv, htail⟩
  · rintro ⟨before, tail, rfl, hbefore, hne, hw, htail⟩
    rw [fields_append_of_sep hbefore, head?_fields_append hne hw htail]

end GoScaffold.Text
