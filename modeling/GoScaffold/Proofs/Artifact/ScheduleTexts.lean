import GoScaffold.Artifact.Server
import GoScaffold.Proofs.Artifact.PortTexts
import GoScaffold.Proofs.Artifact.ServerTemplate

/-! The texts of schedules in the commands that serve. A schedule calls every method that it is
declared for in the services of the command, or publishes an event if it is for no method. -/

namespace GoScaffold.Artifact

def dueText (t : Schedule) : String :=
  "\tplatform.Schedule(ctx, logger, " ++ Text.goQuote t.name ++ ", " ++
    Text.goQuote t.every ++ ", " ++ Text.goQuote t.atTime ++
    ", func(ctx context.Context) error \x7b\n"

def dueInput (m : Model.Method) : String :=
  if m.input.isSome then ", " ++ m.implSignature.inputType ++ "\x7b\x7d" else ""

def dueCall (t : Schedule) (m : Model.Method) : String :=
  Text.lowerFirst t.service ++ "Svc" ++ "." ++ m.name ++ "(ctx" ++ dueInput m ++ ")\n"

def dueMethod (t : Schedule) (m : Model.Method) : String :=
  dueText t ++ (if m.output.isSome then "\t\t_, err := " ++ dueCall t m ++ "\t\treturn err\n"
    else "\t\treturn " ++ dueCall t m) ++ "\t\x7d)\n"

def dueService (t : Schedule) (s : Model.Service) : String :=
  String.join ((s.methods.filter fun m => m.name == t.action).map (dueMethod t))

def duePublish (p : ServerPage) (t : Schedule) : String :=
  if t.action.isEmpty && !t.publish.isEmpty && p.publisher then
    dueText t ++ "\t\treturn publisher.Publish(ctx, " ++ Text.goQuote t.publish ++
      ", nil)\n\t\x7d)\n"
  else ""

def scheduleText (p : ServerPage) (t : Schedule) : String :=
  String.join ((p.services.filter fun s => s.name == t.service).map (dueService t)) ++
    duePublish p t

open Template Bundled

variable {kit : HelperKit} {call : Caller} {s : Scope}

theorem eval_schedule_attr (kit : HelperKit) (call : Caller) {t : Schedule}
    (ht : s.value "sch" = some t.toJson) :
    (Expr.attr (.var "sch") "name").eval kit call s = .ok (some (.str t.name)) ∧
      (Expr.attr (.var "sch") "every").eval kit call s = .ok (some (.str t.every)) ∧
      (Expr.attr (.var "sch") "at").eval kit call s = .ok (some (.str t.atTime)) ∧
      (Expr.attr (.var "sch") "service").eval kit call s = .ok (some (.str t.service)) ∧
      (Expr.attr (.var "sch") "action").eval kit call s = .ok (some (.str t.action)) ∧
      (Expr.attr (.var "sch") "publish").eval kit call s = .ok (some (.str t.publish)) := by
  refine ⟨?_, ?_, ?_, ?_, ?_, ?_⟩
  all_goals
    rw [Expr.eval_attr (eval_var_eq ht)]
    rfl

theorem writes_due {t : Schedule} (ht : s.value "sch" = some t.toJson) (body : String) :
    Writes kit call s (dueNodes body) (dueText t ++ body) s := by
  obtain ⟨hname, hevery, hat, -⟩ := eval_schedule_attr kit call ht
  have hwrites : Writes kit call s (dueNodes body) _ s :=
    .text _ <| .print (Expr.eval_goQuote hname) <| .text _ <| .print (Expr.eval_goQuote hevery) <|
      .text _ <|
    .print (Expr.eval_goQuote hat) <| .text _ .nil
  unfold dueText
  exact hwrites.of_eq (by simp only [Value.printed, String.append_assoc, String.append_empty])

structure Due (s : Scope) (t : Schedule) : Prop where
  schedule : s.value "sch" = some t.toJson
  holder : s.value "var" = some (.str (Text.lowerFirst t.service ++ "Svc"))

theorem Due.enter {t : Schedule} (hs : Due s t) {name : String}
    (hname : name ≠ "sch" ∧ name ≠ "var") (item : Json)
    (index length : Nat) : Due (s.enter (Loop.frame name item index length)) t := by
  constructor
  · rw [Loop.value_frame_of_ne hname.1.symm (by decide), hs.schedule]
  · rw [Loop.value_frame_of_ne hname.2.symm (by decide), hs.holder]

theorem isTrue_entity (e : Option Model.Entity) :
    Value.isTrue (some (.ofOption Model.Entity.toJson e)) = e.isSome := by
  cases e <;> rfl

theorem writes_dueCall {t : Schedule} (hs : Due s t) {m : Model.Method}
    (hm : s.value "m" = some m.toJson)
    (before after : String) :
    Writes kit call s (dueCallNodes before after) (before ++ dueCall t m ++ after) s := by
  have hname := (eval_method_attr kit call hm).1
  have hinput : (Expr.attr (.var "m") "input").eval kit call s =
      .ok (some (.ofOption Model.Entity.toJson m.input)) := by
    rw [Expr.eval_attr (eval_var_eq hm)]
    rfl
  have htype : (Expr.attr (.attr (.var "m") "impl_signature") "input_type").eval kit call s =
      .ok (some (.str m.implSignature.inputType)) := by
    have hsignature : (Expr.attr (.var "m") "impl_signature").eval kit call s =
        .ok (some m.implSignature.toJson) := by
      rw [Expr.eval_attr (eval_var_eq hm)]
      rfl
    rw [Expr.eval_attr hsignature]
    rfl
  have hwrites : Writes kit call s (dueCallNodes before after) _ s :=
    .text _ <| .print (eval_var_eq hs.holder) <| .text _ <| .print hname <| .text _ <|
    .either hinput (isTrue_entity m.input) (.text _ <| .print htype <| .text _ .nil) .nil <|
      .text _ .nil
  unfold dueCall dueInput
  exact hwrites.of_eq (by simp only [Value.printed, String.append_assoc, String.append_empty])

theorem writes_dueMethod {t : Schedule} (hs : Due s t) {m : Model.Method}
    (hm : s.value "m" = some m.toJson) :
    Writes kit call s dueMethodNodes (dueMethod t m) s := by
  have houtput : (Expr.attr (.var "m") "output").eval kit call s =
      .ok (some (.ofOption Model.Entity.toJson m.output)) := by
    rw [Expr.eval_attr (eval_var_eq hm)]
    rfl
  have hwrites : Writes kit call s dueMethodNodes _ s :=
    (writes_due hs.schedule "").append <| .either houtput (isTrue_entity m.output)
      (writes_dueCall hs hm _ _)
      (writes_dueCall hs hm _ _) <| .text _ .nil
  unfold dueMethod
  exact hwrites.of_eq (by simp only [String.append_assoc, String.append_empty])

theorem writes_dueService {t : Schedule} (hs : Due s t) {service : Model.Service}
    (hservice : s.value "s" = some service.toJson) :
    Writes kit call s [dueServiceNode] (dueService t service) s := by
  have hmethods : (Expr.attr (.var "s") "methods").eval kit call s =
      .ok (some (.arr (service.methods.map Model.Method.toJson))) := by
    rw [Expr.eval_attr (eval_var_eq hservice)]
    rfl
  have haction (m : Model.Method) (_ : m ∈ service.methods) : ∃ v,
      (Expr.binary .equal (.attr (.var "m") "name") (.attr (.var "sch") "action")).eval kit call
        (s.enter [("m", .value (some m.toJson))]) = .ok v ∧ v.isTrue = (m.name == t.action) := by
    have hm : (s.enter [("m", .value (some m.toJson))]).value "m" = some m.toJson :=
      Scope.value_enter_of_some rfl
    have ht : (s.enter [("m", .value (some m.toJson))]).value "sch" = some t.toJson := by
      rw [Scope.value_enter_of_none rfl, hs.schedule]
    obtain ⟨-, -, -, -, hwanted, -⟩ := eval_schedule_attr kit call ht
    exact ⟨_, Expr.eval_equal_text (eval_method_attr kit call hm).1 hwanted, rfl⟩
  have hcall (m : Model.Method) (_ : m ∈ service.methods.filter fun m => m.name == t.action)
      (index length : Nat) :
      ∃ after, Writes kit call (s.enter (Loop.frame "m" m.toJson index length))
        dueMethodNodes (dueMethod t m) after :=
    ⟨_, writes_dueMethod (hs.enter (by decide) _ _ _) (Loop.value_frame_name (by decide) _ _ _)⟩
  exact Writes.of_eq (.selected hmethods haction hcall .nil) String.append_empty

theorem writes_duePublish {p : ServerPage} {t : Schedule} (ht : s.value "sch" = some t.toJson)
    (hpublisher : s.value "publisher" = some (.bool p.publisher)) :
    Writes kit call s [duePublishNode] (duePublish p t) s := by
  obtain ⟨-, -, -, -, haction, hpublish⟩ := eval_schedule_attr kit call ht
  obtain ⟨only, honly, honlyTrue⟩ := Expr.exists_eval_and (Expr.eval_not haction) hpublish
  obtain ⟨all, hall, hallTrue⟩ := Expr.exists_eval_and honly (eval_var_eq hpublisher)
  have hwanted : all.isTrue = (t.action.isEmpty && !t.publish.isEmpty && p.publisher) := by
    rw [hallTrue, honlyTrue]
    simp [Value.isTrue]
  have hwrites : Writes kit call s duePublishNodes _ s :=
    (writes_due ht _).append <| .print (Expr.eval_goQuote hpublish) <| .text _ .nil
  unfold duePublish
  refine Writes.of_eq (.either hall hwanted hwrites .nil .nil) ?_
  simp only [Value.printed, String.append_assoc, String.append_empty]

theorem writes_schedule {p : ServerPage} {t : Schedule} (ht : s.value "sch" = some t.toJson)
    (hservices : s.value "services" = some (.arr (p.services.map Model.Service.toJson)))
    (hpublisher : s.value "publisher" = some (.bool p.publisher)) :
    ∃ after, Writes kit call s scheduleNodes (scheduleText p t) after := by
  let named := s.bind "var" (.value (some (.str (Text.lowerFirst t.service ++ "Svc"))))
  have hvar : (Expr.binary .concat (.filter (.attr (.var "sch") "service") "lower_first" [])
      (.const (.str "Svc"))).eval kit call s =
      .ok (some (.str (Text.lowerFirst t.service ++ "Svc"))) := by
    obtain ⟨-, -, -, hservice, -, -⟩ := eval_schedule_attr kit call ht
    have hlower : (Expr.filter (.attr (.var "sch") "service") "lower_first" []).eval kit call s =
        .ok (some (.str (Text.lowerFirst t.service))) := by
      rw [Expr.eval_filter hservice, HelperKit.filter_lowerFirst]
    rw [Expr.eval_binary hlower (Expr.eval_const _)]
    rfl
  have hdue : Due named t := by
    constructor
    · rw [Scope.value_bind_of_ne (by decide), ht]
    · exact Scope.value_bind_self
  have hservices : (Expr.var "services").eval kit call named =
      .ok (some (.arr (p.services.map Model.Service.toJson))) := by
    rw [Expr.eval_var, Scope.value_bind_of_ne (by decide), hservices]
  have hpublisher : named.value "publisher" = some (.bool p.publisher) := by
    rw [Scope.value_bind_of_ne (by decide), hpublisher]
  have hwanted (service : Model.Service) (_ : service ∈ p.services) : ∃ v,
      (Expr.binary .equal (.attr (.var "s") "name") (.attr (.var "sch") "service")).eval kit call
        (named.enter [("s", .value (some service.toJson))]) = .ok v ∧
          v.isTrue = (service.name == t.service) := by
    have hs : (Expr.attr (.var "s") "name").eval kit call
        (named.enter [("s", .value (some service.toJson))]) = .ok (some (.str service.name)) := by
      rw [Expr.eval_attr (eval_var_eq (Scope.value_enter_of_some rfl))]
      rfl
    have ht : (named.enter [("s", .value (some service.toJson))]).value "sch" = some t.toJson := by
      rw [Scope.value_enter_of_none rfl, hdue.schedule]
    obtain ⟨-, -, -, howner, -, -⟩ := eval_schedule_attr kit call ht
    exact ⟨_, Expr.eval_equal_text hs howner, rfl⟩
  have hround (service : Model.Service) (_ : service ∈ p.services.filter fun x =>
      x.name == t.service)
      (index length : Nat) : ∃ after, Writes kit call
        (named.enter (Loop.frame "s" service.toJson index length)) [dueServiceNode]
        (dueService t service) after :=
    ⟨_, writes_dueService (hdue.enter (by decide) _ _ _) (Loop.value_frame_name (by decide) _ _ _)⟩
  exact ⟨named, .set hvar <| .selected hservices hwanted hround
    (writes_duePublish hdue.schedule hpublisher)⟩

end GoScaffold.Artifact
