import GoScaffold.Proofs.Artifact.RepositoryTexts

/-! What a finder returns where nothing is found. A type that the finder declares, or that stands in
where it declares none, is taken to have the zero value nil; every other type comes with its own. -/

namespace GoScaffold

namespace GoType

def valueTypes : List String :=
  ["int", "int64", "int32", "float64", "float32", "string", "bool", "time.Time"]

theorem zeroValue_valueTypes : ∀ type ∈ valueTypes, zeroValue type ≠ "nil" := by decide +kernel

theorem zeroValue_eq_nil_iff {type : String} : zeroValue type = "nil" ↔ type ∉ valueTypes := by
  refine ⟨fun hnil hvalue => zeroValue_valueTypes type hvalue hnil, fun hvalue => ?_⟩
  unfold zeroValue
  split
  · rfl
  · split
    all_goals first | rfl | exact absurd (by decide) hvalue

theorem zeroValue_ne_empty (type : String) : zeroValue type ≠ "" := by
  unfold zeroValue
  split
  · decide
  · split <;> decide

end GoType

namespace Returned

open GoType

theorem ofType_pointer (entity : String) :
    ofType ("*domain." ++ entity) = { type := "*domain." ++ entity, zero := "nil" } := by
  unfold ofType zeroValue Text.startsWith
  rw [String.toList_append]
  rfl

theorem ofType_list (entity : String) :
    ofType ("[]domain." ++ entity) =
      { type := "[]domain." ++ entity, zero := "nil", slice := true } := by
  unfold ofType zeroValue Text.startsWith
  rw [String.toList_append]
  rfl

theorem ofType_int64 : ofType "int64" = count := by decide +kernel

/-- The finder declares the type to return, or says nothing about it and there is a type that stands
in. -/
def IsGiven (entity : String) (finder : Finder) (fallback : String) : Prop :=
  finder.returnType ≠ "" ∨
    finder.action ≠ "delete" ∧ finder.returns = "" ∧ entity ≠ "" ∧ fallback ≠ ""

instance (entity : String) (finder : Finder) (fallback : String) :
    Decidable (IsGiven entity finder fallback) :=
  inferInstanceAs (Decidable (_ ∨ _))

section

variable {entity : String} {finder : Finder} {fallback : String}

theorem ofFinder_of_given (h : IsGiven entity finder fallback) :
    ∃ type, type ≠ "" ∧ ofFinder entity finder fallback = nilable type := by
  unfold ofFinder
  rcases h with hdeclared | ⟨haction, hreturns, hentity, hfallback⟩
  · exact ⟨finder.returnType, hdeclared, if_pos (by simpa using hdeclared)⟩
  · by_cases hdeclared : finder.returnType = ""
    · refine ⟨fallback, hfallback, ?_⟩
      -- what is returned is no spelling of the entity, since that is not empty
      have hpointer : Text.dropPrefix? "" "*" = none := rfl
      have hlist : Text.dropPrefix? "" "[]" = none := rfl
      dsimp only
      rw [hdeclared, hreturns, hpointer, hlist, if_neg (by decide), if_neg haction,
        if_neg (by simp [hentity.symm]), if_neg (by simp), if_neg (by decide), if_pos (by decide),
        if_neg (by simpa using hfallback)]
    · exact ⟨finder.returnType, hdeclared, if_pos (by simpa using hdeclared)⟩

theorem ofFinder_of_not_given (h : ¬IsGiven entity finder fallback) :
    ofFinder entity finder fallback = {} ∨
      ∃ type, type ≠ "" ∧ ofFinder entity finder fallback = ofType type := by
  unfold ofFinder
  dsimp only
  split_ifs with hdeclared hdelete hone hmany hcount hnone hfallback
  · exact absurd (.inl (by simpa using hdeclared)) h
  · exact .inr ⟨"int64", by decide, ofType_int64.symm⟩
  · exact .inr ⟨"*domain." ++ entity, by simp, (ofType_pointer entity).symm⟩
  · exact .inr ⟨"[]domain." ++ entity, by simp, (ofType_list entity).symm⟩
  · exact .inr ⟨"int64", by decide, ofType_int64.symm⟩
  · exact .inl rfl
  · -- where nothing is said, what stands in is given
    have hreturns : finder.returns = "" := by simpa using hnone
    have hentity : entity ≠ "" := by
      rintro rfl
      exact hone (by simp [hreturns])
    exact absurd (.inr ⟨hdelete, hreturns, hentity, by simpa using hfallback⟩) h
  · exact .inr ⟨finder.returns, by simpa using hnone, rfl⟩

end

/-- The list flag always fits the type of what a finder returns, and there is a zero value exactly
if there is a type. The zero value is that of the type unless the type is given and its zero value
is not nil. -/
theorem zero_fits_iff (entity : String) (finder : Finder) (fallback : String) :
    ∃ r, (QuerySignature.ofFinder entity finder fallback).returned = r ∧
      (r.slice = true ↔ Text.startsWith r.type "[]" = true) ∧
      (r.zero = "" ↔ r.type = "") ∧
      (r.type ≠ "" → (r.zero = zeroValue r.type ↔
        ¬(IsGiven entity finder fallback ∧ r.type ∈ valueTypes))) := by
  refine ⟨ofFinder entity finder fallback, rfl, ?_⟩
  by_cases hgiven : IsGiven entity finder fallback
  · obtain ⟨type, htype, hreturned⟩ := ofFinder_of_given hgiven
    rw [hreturned, and_iff_right hgiven]
    refine ⟨Iff.rfl, by simp [nilable, htype], fun _ => ?_⟩
    exact eq_comm.trans zeroValue_eq_nil_iff
  · rcases ofFinder_of_not_given hgiven with hreturned | ⟨type, htype, hreturned⟩
    · rw [hreturned]
      exact ⟨by decide, by decide, fun hne => absurd rfl hne⟩
    · rw [hreturned]
      refine ⟨Iff.rfl, ?_, fun _ => iff_of_true rfl fun h => hgiven h.1⟩
      exact iff_of_false (zeroValue_ne_empty type) htype

def counting : Finder := { name := "CountOpen", returnType := "int64" }

/-- The mock of the finder returns nil for a number. -/
theorem zero_of_number_nil :
    (QuerySignature.ofFinder "Order" counting "").returned = { type := "int64", zero := "nil" } ∧
      zeroValue "int64" = "0" ∧
      (QuerySignature.ofFinder "Order" counting "").results = "(int64, error)" ∧
      (Artifact.mockMethod (QuerySignature.ofFinder "Order" counting "")).body =
        "\tif m.CountOpenFunc == nil \x7b\n\t\treturn nil, nil\n\t\x7d\n\treturn m.CountOpenFunc(ctx)\n" := by
  decide +kernel

end Returned

end GoScaffold
