import GoScaffold.Artifact.Service
import GoScaffold.Proofs.Audit
import GoScaffold.Proofs.Model.Projection
import GoScaffold.Proofs.Model.Reordering

/-! The audit of a service and its generated implementation. The audit goes by the flow, the given
code and the methods written by hand; the implementation goes by the code of the flow, which a flow
has only if every step of it has a lowering. They agree on what nobody implements: the missing
methods are those whose body is a region to be filled and which have no flow. A flow without code
counts as an implementation, though its method has such a region too. -/

namespace GoScaffold.Artifact

open Model (ofSchema)

variable {schema : Schema} {service : Model.Service} {m : Model.Method} {overrides : List String}

def ImplMethod.entry (service : Model.Service) (im : ImplMethod) : MissingMethod :=
  { service := service.name, method := im.method.name, source := im.method.source }

namespace ImplMethod

@[simp] theorem method_of : (of service m).method = m := by
  unfold of
  dsimp only
  split
  · rfl
  · split <;> rfl

theorem body_of_eq_custom_iff : (of service m).body = .custom ↔
    m.flowCode = none ∧ Text.isBlankText m.implCode = true := by
  unfold of
  dsimp only
  cases m.flowCode with
  | some flow => simp
  | none => cases Text.isBlankText m.implCode <;> simp

end ImplMethod

theorem flowCode_eq_none_iff (hservice : service ∈ (ofSchema schema).services)
    (hm : m ∈ service.methods) :
    m.flowCode = none ↔ m.flow = [] ∨ Flow.renderable m.flow = false := by
  obtain ⟨s, -, rfl⟩ := Model.mem_services_ofSchema.1 hservice
  obtain ⟨declared, -, rfl⟩ := Model.mem_methods_ofService.1 hm
  simp only [Model.ofMethod, ite_eq_right_iff, reduceCtorEq, imp_false, Bool.and_eq_true,
    Bool.not_eq_true', List.isEmpty_eq_false_iff, ne_eq]
  rw [not_and_or, not_not, Bool.not_eq_true]

theorem mem_methods_implPage {h : Header} {im : ImplMethod} :
    im ∈ (implPage h service overrides).methods ↔
      ∃ m ∈ service.methods, m.name ∉ overrides ∧ ImplMethod.of service m = im := by
  simp [implPage, and_assoc]

theorem isImplemented_eq_false_iff (hservice : service ∈ (ofSchema schema).services)
    (hm : m ∈ service.methods) : m.isImplemented overrides = false ↔
      m.name ∉ overrides ∧ (ImplMethod.of service m).body = .custom ∧ m.flow = [] := by
  rw [ImplMethod.body_of_eq_custom_iff, flowCode_eq_none_iff hservice hm,
    Model.Method.isImplemented]
  simp only [Bool.or_eq_false_iff, Bool.not_eq_false', List.isEmpty_iff, List.contains_eq_mem,
    decide_eq_false_iff_not]
  constructor
  · rintro ⟨⟨hflow, hcode⟩, hname⟩
    exact ⟨hname, ⟨.inl hflow, hcode⟩, hflow⟩
  · rintro ⟨hname, ⟨-, hcode⟩, hflow⟩
    exact ⟨⟨hflow, hcode⟩, hname⟩

theorem missing_eq_map_entry (h : Header) (hservice : service ∈ (ofSchema schema).services)
    (overrides : List String) :
    Audit.missing service overrides = ((implPage h service overrides).methods.filter fun im =>
      im.body == .custom && im.method.flow.isEmpty).map (ImplMethod.entry service) := by
  have hfilter : (service.methods.filter fun m => !m.isImplemented overrides) =
      service.methods.filter fun m => ((ImplMethod.of service m).body == .custom &&
        (ImplMethod.of service m).method.flow.isEmpty) && !overrides.contains m.name := by
    refine List.filter_congr fun m hm => Bool.eq_iff_iff.2 ?_
    rw [Bool.not_eq_true', isImplemented_eq_false_iff hservice hm]
    simp [and_comm]
  rw [implPage, List.filter_map, List.filter_filter, List.map_map, Audit.missing, hfilter]
  refine List.map_congr_left fun m _ => ?_
  rw [Function.comp_apply, ImplMethod.entry, ImplMethod.method_of]

theorem keysTell_missing (hnames : ∀ m ∈ service.methods, '|' ∉ m.name.toList) :
    MissingMethod.KeysTell (Audit.missing service overrides) := by
  have hentry : ∀ e ∈ Audit.missing service overrides,
      e.service = service.name ∧ '|' ∉ e.method.toList := by
    intro e he
    obtain ⟨m, hm, rfl⟩ := List.mem_map.1 he
    exact ⟨rfl, hnames m (List.mem_of_mem_filter hm)⟩
  intro e he f hf
  obtain ⟨hservice, hmethod⟩ := hentry e he
  obtain ⟨hservice', hmethod'⟩ := hentry f hf
  exact MissingMethod.eq_of_key_eq (hservice.trans hservice'.symm) hmethod hmethod'

theorem entries_auditService (hnames : ∀ m ∈ service.methods, '|' ∉ m.name.toList)
    (overrides : List String) :
    (Audit.auditService {} service overrides).entries =
      (Audit.missing service overrides).eraseDups :=
  Audit.entries_recordAll (keysTell_missing hnames)

/-- The audit of a service records what is generated without an implementation and nothing else; a
region to be filled that it does not record stands for a flow that has no lowering; and a method
that is written by hand is neither generated nor recorded. -/
theorem audit_agrees_with_page (h : Header) (hservice : service ∈ (ofSchema schema).services)
    (hnames : ∀ m ∈ service.methods, '|' ∉ m.name.toList) (overrides : List String) :
    (Audit.auditService {} service overrides).entries =
      (((implPage h service overrides).methods.filter fun im =>
        im.body == .custom && im.method.flow.isEmpty).map (ImplMethod.entry service)).eraseDups ∧
    (∀ im ∈ (implPage h service overrides).methods, im.body = .custom →
      im.entry service ∉ (Audit.auditService {} service overrides).entries →
      im.method.flow ≠ [] ∧ Flow.renderable im.method.flow = false) ∧
    (∀ name ∈ overrides, (∀ im ∈ (implPage h service overrides).methods, im.method.name ≠ name) ∧
      ∀ entry ∈ (Audit.auditService {} service overrides).entries, entry.method ≠ name) := by
  have hentries := entries_auditService hnames overrides
  rw [missing_eq_map_entry h hservice] at hentries
  have hbyHand : ∀ name ∈ overrides,
      ∀ im ∈ (implPage h service overrides).methods, im.method.name ≠ name := by
    rintro name hname im him rfl
    obtain ⟨m, -, hoverride, rfl⟩ := mem_methods_implPage.1 him
    exact hoverride (ImplMethod.method_of (m := m) ▸ hname)
  refine ⟨hentries, fun im him hbody hmissing => ?_, fun name hname => ⟨hbyHand name hname, ?_⟩⟩
  · obtain ⟨m, hm, -, rfl⟩ := mem_methods_implPage.1 him
    have hflow : m.flow ≠ [] := by
      intro hflow
      refine hmissing ?_
      rw [hentries, List.mem_eraseDups]
      exact List.mem_map_of_mem (List.mem_filter.2 ⟨him, by simp [hbody, hflow]⟩)
    rw [ImplMethod.body_of_eq_custom_iff, flowCode_eq_none_iff hservice hm] at hbody
    rw [ImplMethod.method_of]
    exact ⟨hflow, hbody.1.resolve_left hflow⟩
  · rintro entry hentry rfl
    rw [hentries, List.mem_eraseDups] at hentry
    obtain ⟨im, him, rfl⟩ := List.mem_map.1 hentry
    exact hbyHand _ hname im (List.mem_of_mem_filter him) rfl

def closing : GoScaffold.Method := { name := "Close", flow := [{ action := "http.Call" }] }

/-- A service with methods of every kind: nobody implements `Answer`, `Escalate` has code of its
own, `Open` has a flow, and `Reopen` is to be written by hand. -/
def desk : GoScaffold.Service :=
  { name := "Desk"
    methods := [
      { name := "Answer" },
      closing,
      { name := "Escalate", impl := some { code := "return nil" } },
      { name := "Open", flow := [{ action := "repo.Save", args := [("source", .str "Ticket")] }] },
      { name := "Reopen" }] }

theorem methods_desk (dtoNames : List String) :
    (Model.ofService dtoNames desk).methods = desk.methods.map Model.ofMethod :=
  Model.sortOn_eq_self (by decide)

theorem methods_implPage_desk (dtoNames overrides : List String) :
    (implPage ⟨"shop", {}⟩ (Model.ofService dtoNames desk) overrides).methods =
      ((desk.methods.map Model.ofMethod).filter fun m => !overrides.contains m.name).map
        (ImplMethod.of (Model.ofService dtoNames desk)) := by
  rw [implPage, methods_desk]

theorem audit_agrees_with_page_desk : ∃ service ∈ (ofSchema { services := [desk] }).services,
    (∀ m ∈ service.methods, '|' ∉ m.name.toList) ∧
    (Audit.auditService {} service ["Reopen"]).entries = [⟨"Desk", "Answer", ""⟩] ∧
    (∃ im ∈ (implPage ⟨"shop", {}⟩ service ["Reopen"]).methods, im.method.name = "Close" ∧
      im.body = .custom ∧ im.method.flow ≠ [] ∧ Flow.renderable im.method.flow = false) ∧
    ∀ im ∈ (implPage ⟨"shop", {}⟩ service ["Reopen"]).methods, im.method.name ≠ "Reopen" := by
  have hservice : Model.ofService (Model.dtoNames (ofSchema { services := [desk] }).entities) desk ∈
      (ofSchema { services := [desk] }).services :=
    Model.mem_services_ofSchema.2 ⟨desk, List.mem_singleton_self desk, rfl⟩
  rw [show Model.dtoNames (ofSchema { services := [desk] }).entities = [] by decide +kernel]
    at hservice
  have hnames : ∀ m ∈ (Model.ofService [] desk).methods, '|' ∉ m.name.toList := by
    rw [methods_desk]
    decide
  obtain ⟨hentries, hcustom, hbyHand⟩ :=
    audit_agrees_with_page ⟨"shop", {}⟩ hservice hnames ["Reopen"]
  have hrecorded : (Audit.auditService {} (Model.ofService [] desk) ["Reopen"]).entries =
      [⟨"Desk", "Answer", ""⟩] := by
    rw [hentries, methods_implPage_desk]
    decide +kernel
  obtain ⟨im, him, hname, hbody⟩ :
      ∃ im ∈ (implPage ⟨"shop", {}⟩ (Model.ofService [] desk) ["Reopen"]).methods,
        im.method.name = "Close" ∧ im.body = .custom := by
    have hclosing : Model.ofMethod closing ∈ desk.methods.map Model.ofMethod :=
      List.mem_map_of_mem (.tail _ (.head _))
    rw [methods_implPage_desk]
    refine ⟨_, List.mem_map_of_mem (List.mem_filter.2 ⟨hclosing, rfl⟩), ?_, by decide +kernel⟩
    rw [ImplMethod.method_of]
    rfl
  have hunrecorded : im.entry (Model.ofService [] desk) ∉
      (Audit.auditService {} (Model.ofService [] desk) ["Reopen"]).entries := by
    rw [hrecorded, List.mem_singleton, ImplMethod.entry, hname]
    simp
  exact ⟨_, hservice, hnames, hrecorded, ⟨im, him, hname, hbody, hcustom im him hbody hunrecorded⟩,
    (hbyHand "Reopen" (List.mem_singleton_self _)).1⟩

end GoScaffold.Artifact
