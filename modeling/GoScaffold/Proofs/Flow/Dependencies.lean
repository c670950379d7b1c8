import GoScaffold.Proofs.Flow.Provenance
import GoScaffold.Proofs.Model.Projection

/-! The code of a method and what its service holds. A service holds the repositories of its
`repoEntities`, a transaction runner if it `needsTx`, and a publisher if it `publishesEvents`. These
are found by looking for actions in the flows, while the code is written step by step; the code
selects no field that the search misses. Texts that a step gives are copied, whatever they say. -/

namespace GoScaffold.Model

open GoScaffold.Flow (CodePart CodeLine)

/-- The service holds what the part of the method's code uses. Texts that the steps give are let
pass, other words are not to select any field. -/
def Service.Covers (model : Model) (service : Service) (m : Method) : CodePart → Prop
  | .words text => Flow.selectsField false text.toList = false
  | .given text =>
    (∃ s ∈ Step.stepsTree m.flow, ∃ name, text = s.arg name) ∨ Flow.isLiteral text = true
  | .quoted _ => True
  | .number _ => True
  | .repo entity => entity ∈ service.repoEntities ∨ model.NamesDto entity
  | .publisher => service.publishesEvents = true

variable {schema : Schema} {service : Service} {m : Method}

theorem mem_repoEntities_of_step (hservice : service ∈ (ofSchema schema).services)
    (hm : m ∈ service.methods) {s : Step} (hs : s ∈ Step.stepsTree m.flow) {source : String}
    (hsource : Flow.repoSource? s = some source) :
    Name.exported source ∈ service.repoEntities ∨
      (ofSchema schema).NamesDto (Name.exported source) := by
  have hreached : m.Reaches (Name.exported source) := .inr ⟨s, hs, source, hsource, rfl⟩
  rw [mem_repoEntities hservice, or_iff_not_imp_right]
  exact fun hstored => ⟨⟨m, hm, hreached⟩, hstored⟩

theorem publishesEvents_of_step (hservice : service ∈ (ofSchema schema).services)
    (hm : m ∈ service.methods) {s : Step} (hs : s ∈ Step.stepsTree m.flow)
    (haction : s.action = "event.Publish") : service.publishesEvents = true := by
  obtain ⟨declared, -, rfl⟩ := mem_services_ofSchema.1 hservice
  obtain ⟨method, -, rfl⟩ := mem_methods_ofService.1 hm
  have hflow : Flow.publishesEvents (ofMethod method).flow = true :=
    List.any_eq_true.2 ⟨s, FlowStep.mem_visited_iff_mem_stepsTree.2 hs, beq_iff_eq.2 haction⟩
  exact List.any_eq_true.2 ⟨_, hm, hflow⟩

theorem covers_of_fromSome (hservice : service ∈ (ofSchema schema).services)
    (hm : m ∈ service.methods) {part : CodePart} (hpart : part.FromSome (Step.stepsTree m.flow)) :
    service.Covers (ofSchema schema) m part := by
  obtain ⟨s, hs, hpart⟩ := hpart
  cases part with
  | words text => exact hpart
  | given text => exact hpart.imp_left fun hname => ⟨s, hs, hname⟩
  | quoted text => trivial
  | number n => trivial
  | repo entity =>
    obtain ⟨source, hsource, rfl⟩ := hpart
    exact mem_repoEntities_of_step hservice hm hs hsource
  | publisher => exact publishesEvents_of_step hservice hm hs hpart

/-- All that the code of a method uses is held by the service, and so is what the method needs to
run in a transaction. -/
theorem code_uses_held_fields (hservice : service ∈ (ofSchema schema).services)
    (hm : m ∈ service.methods) {text : String} (htext : m.flowCode = some text) :
    text = String.join ((Flow.code m.flow m.output.isSome).map CodeLine.render) ∧
      (∀ line ∈ Flow.code m.flow m.output.isSome, ∀ part ∈ line.parts,
        service.Covers (ofSchema schema) m part) ∧
      (m.requiresTx = true → service.needsTx = true) := by
  refine ⟨eq_render_of_flowCode hservice hm htext, fun line hline part hpart => ?_, fun htx => ?_⟩
  · exact covers_of_fromSome hservice hm (Flow.fromSome_of_mem_code hline hpart)
  · exact List.any_eq_true.2 ⟨m, hm, htx⟩

def cancelItem : GoScaffold.Method :=
  { name := "Cancel"
    flow := [{
      action := "tx.Block"
      steps := [{
        action := "flow.If"
        args := [("condition", .str "req.Sure")]
        thenSteps := [{ action := "repo.Delete", args := [("source", .str "order_item")] }]
        elseSteps := [{ action := "event.Publish", args := [("event", .str "Kept")] }] }] }] }

def cancelling : GoScaffold.Service := { name := "Orders", methods := [cancelItem] }

theorem code_uses_held_fields_cancelling :
    ∃ service ∈ (ofSchema { services := [cancelling] }).services, ∃ m ∈ service.methods,
      ∃ text, m.flowCode = some text ∧
        ("OrderItem" ∈ service.repoEntities ∨
          (ofSchema { services := [cancelling] }).NamesDto "OrderItem") ∧
        service.publishesEvents = true ∧ m.requiresTx = true ∧ service.needsTx = true := by
  obtain ⟨text, htext⟩ : ∃ text, (ofMethod cancelItem).flowCode = some text :=
    Option.isSome_iff_exists.1 (by decide +kernel)
  obtain ⟨service, hservice, hmethods⟩ :=
    exists_service_of_mem { services := [cancelling] } (List.mem_singleton_self cancelling)
  have hm : ofMethod cancelItem ∈ service.methods :=
    (hmethods _).2 ⟨cancelItem, List.mem_singleton_self _, rfl⟩
  obtain ⟨-, hcovers, htx⟩ := code_uses_held_fields hservice hm htext
  have hused : ∀ part ∈ [CodePart.repo "OrderItem", .publisher],
      ∃ line ∈ Flow.code (ofMethod cancelItem).flow (ofMethod cancelItem).output.isSome,
        part ∈ line.parts := by
    decide +kernel
  obtain ⟨first, hfirst, hrepo⟩ := hused (.repo "OrderItem") (by simp)
  obtain ⟨second, hsecond, hpublisher⟩ := hused .publisher (by simp)
  have hruns : (ofMethod cancelItem).requiresTx = true := by decide +kernel
  exact ⟨service, hservice, _, hm, text, htext, hcovers first hfirst _ hrepo,
    hcovers second hsecond _ hpublisher, hruns, htx hruns⟩

def takePublisher : GoScaffold.Method :=
  { name := "Do"
    flow := [{
      action := "mapping.Assign"
      args := [("to", .str "p"), ("value", .str "s.publisher"), ("declare", .bool true)] }] }

def taking : GoScaffold.Service := { name := "Orders", methods := [takePublisher] }

/-- A text that a step gives may select a field that the service does not have. -/
theorem given_selects_missing_publisher :
    ∃ service ∈ (ofSchema { services := [taking] }).services, ∃ m ∈ service.methods,
      m.flowCode = some "p := s.publisher\n" ∧ service.publishesEvents = false := by
  obtain ⟨service, hservice, hmethods⟩ :=
    exists_service_of_mem { services := [taking] } (List.mem_singleton_self taking)
  have hm : ofMethod takePublisher ∈ service.methods :=
    (hmethods _).2 ⟨takePublisher, List.mem_singleton_self _, rfl⟩
  refine ⟨_, hservice, _, hm, by decide +kernel, List.any_eq_false.2 fun m hm => ?_⟩
  obtain ⟨declared, hdeclared, rfl⟩ := (hmethods m).1 hm
  obtain rfl := List.mem_singleton.1 hdeclared
  decide +kernel

end GoScaffold.Model
