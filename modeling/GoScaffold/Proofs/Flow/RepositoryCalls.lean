import GoScaffold.Proofs.Artifact.RepositoryMethods
import GoScaffold.Proofs.Flow.Normalization

/-! The repository methods that steps call. A step that names no method calls the default one of its
action. All defaults but one are standard methods, which every repository has or replaces by a
finder of the same name; the method that gets a record for an update is no standard method, and a
repository has it only by a finder. -/

namespace GoScaffold

namespace Flow

def calls : List CodePart → List (String × String)
  | .repo entity :: .words "." :: method :: rest => (entity, method.render) :: calls rest
  | _ :: rest => calls rest
  | [] => []

@[simp] theorem calls_words (text : String) (parts : List CodePart) :
    calls (.words text :: parts) = calls parts := rfl

@[simp] theorem calls_given (text : String) (parts : List CodePart) :
    calls (.given text :: parts) = calls parts := rfl

namespace Lowering

def Calls (code : Lowering) (called : List (String × String)) : Prop :=
  ∀ indent declared, ((code indent declared).1.flatMap fun l => calls l.parts) = called

variable {called : List (String × String)}

theorem calls_lines {ls : List CodeLine} (h : (ls.flatMap fun l => calls l.parts) = called) :
    (lines ls).Calls called := by
  intro indent declared
  rw [lines, List.flatMap_map]
  exact h

theorem calls_seq {a b : Lowering} {more : List (String × String)} (ha : a.Calls called)
    (hb : b.Calls more) : (seq a b).Calls (called ++ more) := by
  intro indent declared
  rw [seq, List.flatMap_append, ha, hb]

theorem calls_declaring {name : String} {code : Bool → Lowering}
    (h : ∀ isNew, (code isNew).Calls called) : (declaring name code).Calls called := by
  intro indent declared
  unfold declaring
  split
  · exact h false indent declared
  · exact h true indent (name :: declared)

theorem calls_needing {text : String} {code : Lowering} (h : code.Calls called) :
    (needing [text] code).Calls (if text.isEmpty then [] else called) := by
  unfold needing
  cases htext : text.isEmpty with
  | true => simp [Calls, none, htext]
  | false => simpa [htext] using h

end Lowering

open Lowering

variable {s : Step} {ret method : String}

theorem calls_repoCall (hmethod : s.arg "method" = "") (parts : List CodePart) :
    calls (repoCall s method ++ parts) = (Name.exported (s.arg "source"), method) ::
    calls parts := by
  have hdefault : CodePart.givenOr (s.arg "method") method = .words method := by
    rw [hmethod]
    rfl
  have hmore : calls ((if (s.arg "input").isEmpty then [] else
      [CodePart.words ", ", .given (s.arg "input")]).concat ")" ++ parts) = calls parts := by
    split <;> simp
  rw [repoCall, hdefault]
  exact congrArg (List.cons _) hmore

theorem calls_guarded {head : List CodePart} {called : List (String × String)}
    (h : calls (head ++ [.words " \x7b"]) = called) : (guarded ret head).Calls called := by
  refine calls_lines ?_
  simp [returnError, h, calls]

theorem calls_guarded_repoCall (hmethod : s.arg "method" = "") (opening : String) :
    (guarded ret (.words opening :: (repoCall s method).concat "; err != nil")).Calls
      [(Name.exported (s.arg "source"), method)] := by
  refine calls_guarded ?_
  rw [List.concat_eq_append, List.cons_append, List.append_assoc, calls_words,
    calls_repoCall hmethod]
  rfl

theorem calls_fetchCode (hmethod : s.arg "method" = "") : (fetchCode ret s method).Calls
    (if (s.arg "source").isEmpty then [] else [(Name.exported (s.arg "source"), method)]) := by
  refine calls_needing ?_
  split
  · exact calls_guarded_repoCall hmethod _
  · refine calls_declaring fun isNew => ?_
    have hline : (line (.given (s.arg "output") :: ", err " ::
        (if isNew then CodePart.words ":=" else .words "=") :: " " :: repoCall s method)).Calls
        [(Name.exported (s.arg "source"), method)] := by
      refine calls_lines ?_
      rw [List.flatMap_singleton, calls_given, calls_words]
      have hcall : calls (repoCall s method ++ []) = _ := calls_repoCall hmethod []
      rw [List.append_nil] at hcall
      split <;> exact hcall
    exact calls_seq hline (calls_guarded rfl)

theorem calls_storeCode (hmethod : s.arg "method" = "") : (storeCode ret s method).Calls
    (if (s.arg "source").isEmpty then [] else [(Name.exported (s.arg "source"), method)]) :=
  calls_needing (calls_guarded_repoCall hmethod _)

def repositoryActions : List (String × String) :=
  [("repo.Get", "FindByID"), ("repo.Find", "FindByID"), ("repo.GetForUpdate", "GetByIDForUpdate"),
    ("repo.List", "ListAll"), ("repo.Save", "Save"), ("repo.Delete", "Delete")]

theorem ofName?_repositoryActions : ∀ a ∈ repositoryActions,
    Action.ofName? a.1 = some (.fetch a.2) ∨ Action.ofName? a.1 = some (.store a.2) := by
  decide

theorem calls_lowerStep (haction : (s.action, method) ∈ repositoryActions)
    (hmethod : s.arg "method" = "") : (lowerStep ret s).Calls
    (if (s.arg "source").isEmpty then [] else [(Name.exported (s.arg "source"), method)]) := by
  have hstep : lowerStep ret s = stepCode ret s (lowerArgs ret s.args) := by
    cases s
    rw [lowerStep]
  rw [hstep, stepCode]
  rcases ofName?_repositoryActions _ haction with h | h
  · rw [h]
    exact calls_fetchCode hmethod
  · rw [h]
    exact calls_storeCode hmethod

end Flow

namespace Model

variable {entities : List Entity} {r : GoScaffold.Repository}

theorem mem_finderNames_ofRepository {name : String} :
    name ∈ (ofRepository entities r).finderNames ↔
    ∃ f ∈ r.finders, Name.exported f.name = name := by
  simp [Repository.finderNames, ofRepository]

theorem mem_map_name_methodSet {name : String} :
    name ∈ (ofRepository entities r).methodSet.map QuerySignature.name ↔
      name ∈ ["Save", "FindByID", "ListAll", "Delete"] ∨
        ∃ f ∈ r.finders, Name.exported f.name = name := by
  rw [Repository.map_name_methodSet (resolved_ofRepository entities r), List.mem_append,
    ← mem_finderNames_ofRepository]
  refine or_congr_left' fun hfinder => ?_
  constructor
  · intro hname
    obtain ⟨m, hm, rfl⟩ := List.mem_map.1 hname
    exact List.mem_map_of_mem (Repository.mem_methods.1 hm).1
  · intro hname
    -- no finder takes the place of the standard method
    obtain ⟨m, hm, rfl⟩ : ∃ m ∈ QuerySignature.standardMethods r.entity, m.name = name :=
      List.mem_map.1 hname
    exact List.mem_map_of_mem (Repository.mem_methods.2 ⟨hm, hfinder⟩)

theorem default_mem_standard_or_forUpdate : ∀ a ∈ Flow.repositoryActions,
    a.2 ∈ ["Save", "FindByID", "ListAll", "Delete"] ∧ a.1 ≠ "repo.GetForUpdate" ∨
      a = ("repo.GetForUpdate", "GetByIDForUpdate") := by
  decide

/-- A step that names no method calls the default one of its action. Every repository has this
method, whatever its finders, except that a record is got for an update only through a finder of
that name. -/
theorem default_call_mem_methodSet_iff {s : Step} {name : String}
    (haction : (s.action, name) ∈ Flow.repositoryActions) (hmethod : s.arg "method" = "")
    (entities : List Entity) (r : GoScaffold.Repository) :
    (∀ ret, (Flow.lowerStep ret s).Calls
      (if (s.arg "source").isEmpty then [] else [(Name.exported (s.arg "source"), name)])) ∧
    (name ∈ (ofRepository entities r).methodSet.map QuerySignature.name ↔
      (s.action = "repo.GetForUpdate" →
        ∃ f ∈ r.finders, Name.exported f.name = "GetByIDForUpdate")) := by
  refine ⟨fun ret => Flow.calls_lowerStep haction hmethod, ?_⟩
  rw [mem_map_name_methodSet]
  rcases default_mem_standard_or_forUpdate _ haction with ⟨hstandard, hother⟩ | heq
  · exact ⟨fun _ h => absurd h hother, fun _ => .inl hstandard⟩
  · obtain ⟨hupdate, rfl⟩ := Prod.mk.inj heq
    have hnot : "GetByIDForUpdate" ∉ ["Save", "FindByID", "ListAll", "Delete"] := by decide
    rw [or_iff_right hnot]
    exact ⟨fun h _ => h, fun h => h hupdate⟩

def lockOrder : Step :=
  FlowStep.normalize { action := "repo.GetForUpdate", args :=
    [("input", .str "req.ID"), ("output", .str "order"), ("source", .str "Order")] }

theorem default_call_mem_methodSet_iff_finder :
    (Flow.lowerStep "resp, " lockOrder).Calls [("Order", "GetByIDForUpdate")] ∧
    "GetByIDForUpdate" ∈ (ofRepository [] { entity := "Order", finders :=
      [{ name := "getByIDForUpdate", returns := "one" }] }).methodSet.map QuerySignature.name := by
  have haction : (lockOrder.action, "GetByIDForUpdate") ∈ Flow.repositoryActions := by decide
  have hmethod : lockOrder.arg "method" = "" := by decide
  obtain ⟨hcalls, hmem⟩ := default_call_mem_methodSet_iff haction hmethod []
    { entity := "Order", finders := [{ name := "getByIDForUpdate", returns := "one" }] }
  have hsource : lockOrder.arg "source" = "Order" := by decide +kernel
  have hexported : Name.exported "Order" = "Order" := by decide +kernel
  have hfinder : Name.exported "getByIDForUpdate" = "GetByIDForUpdate" := by decide +kernel
  rw [hsource, hexported] at hcalls
  exact ⟨hcalls "resp, ", hmem.2 fun _ => ⟨_, List.mem_singleton_self _, hfinder⟩⟩

/-- Without such a finder the code calls a method that the repository does not have. -/
theorem default_call_not_mem_methodSet :
    ((Flow.code [lockOrder] true).flatMap fun l => Flow.calls l.parts) =
      [("Order", "GetByIDForUpdate")] ∧
    "GetByIDForUpdate" ∉ (ofRepository [] { entity := "Order" }).methodSet.map
      QuerySignature.name := by
  decide +kernel

end Model

end GoScaffold
