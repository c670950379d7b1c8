import GoScaffold.Flow.Lowering
import GoScaffold.Proofs.Number.Decimal

/-! Labels of switches. Truth values and decimal literals are written as they stand, and so is
whatever else is read as a number; all other labels are written as strings. So a label is written as
a literal unless it is a word for an infinity or for no number, which is left as a name that nothing
declares. -/

namespace GoScaffold

namespace Text

theorem length_le_flatMap_goChar (cs : List Char) : cs.length ≤ (cs.flatMap goChar).length := by
  induction cs with
  | nil => exact Nat.le_refl _
  | cons c cs ih =>
    have hc : 1 ≤ (goChar c).length := by
      unfold goChar
      split_ifs <;> simp
    rw [List.flatMap_cons, List.length_append, List.length_cons]
    omega

theorem goQuote_ne (s : String) : goQuote s ≠ s := by
  intro h
  have hlength := congrArg List.length (congrArg String.toList h)
  have hinside := length_le_flatMap_goChar s.toList
  simp only [goQuote, String.toList_ofList, List.length_append, List.length_cons,
    List.length_nil] at hlength
  omega

end Text

namespace Flow

open Binary64 (IsSpecial)
open Scientific (IsDecimal)

variable {label : String}

/-- The text is a literal for a label: the label as a string, a truth value, or a decimal
literal. -/
def IsLabelLiteral (label text : String) : Prop :=
  text = Text.goQuote label ∨ text = "true" ∨ text = "false" ∨ IsDecimal text.toList

theorem isLiteral_iff : isLiteral label = true ↔
    IsDecimal label.toList ∨ IsSpecial label.toList ∨ label = "true" ∨ label = "false" := by
  rw [isLiteral, Bool.or_eq_true, Bool.or_eq_true, Binary64.parse?_isSome_iff, decide_eq_true_iff,
    decide_eq_true_iff, or_assoc, or_assoc]

theorem render_caseLabel_of_isLiteral (h : isLiteral label = true) :
    (caseLabel label).render = label := by
  rw [caseLabel, if_pos h]
  rfl

theorem render_caseLabel_of_not_isLiteral (h : ¬ isLiteral label = true) :
    (caseLabel label).render = Text.goQuote label := by
  rw [caseLabel, if_neg h]
  rfl

theorem not_isLabelLiteral_of_isSpecial (h : IsSpecial label.toList) :
    ¬ IsLabelLiteral label label := by
  rintro (hquote | rfl | rfl | hdecimal)
  · exact Text.goQuote_ne label hquote.symm
  · exact absurd (Binary64.isSpecial_iff.1 h) (by decide)
  · exact absurd (Binary64.isSpecial_iff.1 h) (by decide)
  · exact Binary64.not_isDecimal_of_isSpecial h hdecimal

/-- Every label is written as a literal but the words for numbers that are not finite, which stand
as they are, like numbers and truth values; every other label is written as a string. -/
theorem caseLabel_literal_iff (label : String) :
    (IsLabelLiteral label (caseLabel label).render ↔ ¬ IsSpecial label.toList) ∧
    ((caseLabel label).render = label ↔
      IsDecimal label.toList ∨ IsSpecial label.toList ∨ label = "true" ∨ label = "false") ∧
    ((caseLabel label).render = Text.goQuote label ↔
      ¬ (IsDecimal label.toList ∨ IsSpecial label.toList ∨ label = "true" ∨ label = "false")) := by
  rw [← isLiteral_iff]
  by_cases h : isLiteral label = true
  · have hrender := render_caseLabel_of_isLiteral h
    have hkinds := isLiteral_iff.1 h
    rw [hrender]
    refine ⟨⟨fun hliteral hspecial => not_isLabelLiteral_of_isSpecial hspecial hliteral,
      fun hspecial => ?_⟩, iff_of_true rfl h,
      iff_of_false (Text.goQuote_ne label).symm (not_not.2 h)⟩
    rcases hkinds with hdecimal | hspecial' | htrue | hfalse
    · exact .inr (.inr (.inr hdecimal))
    · exact absurd hspecial' hspecial
    · exact .inr (.inl htrue)
    · exact .inr (.inr (.inl hfalse))
  · have hrender := render_caseLabel_of_not_isLiteral h
    rw [hrender]
    exact ⟨iff_of_true (.inl rfl) fun hspecial => h (isLiteral_iff.2 (.inr (.inl hspecial))),
      iff_of_false (Text.goQuote_ne label) h, iff_of_true rfl h⟩

/-- A label that is the word for an infinity stands in the code as a name. -/
theorem caseLabel_inf_bare : (caseLabel "inf").render = "inf" ∧ ¬ IsLabelLiteral "inf" "inf" := by
  have hspecial : IsSpecial "inf".toList :=
    ⟨[], "inf".toList, rfl, .absent, by simp [Binary64.specialWords]⟩
  exact ⟨render_caseLabel_of_isLiteral (isLiteral_iff.2 (.inr (.inl hspecial))),
    not_isLabelLiteral_of_isSpecial hspecial⟩

end Flow

end GoScaffold
