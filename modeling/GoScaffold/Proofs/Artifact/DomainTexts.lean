import GoScaffold.Artifact.Domain
import GoScaffold.Proofs.Artifact.AdapterTexts
import GoScaffold.Proofs.Artifact.DomainTemplates
import GoScaffold.Proofs.Template.Routines
import GoScaffold.Proofs.Text.Line

/-! The texts of the domain package, word for word, and that its templates write just that. Types
are declared one after another; what else there is declares none. -/

namespace GoScaffold

namespace Artifact

def importsText (i : Imports) : String :=
  if !i.isEmpty then "\nimport (\n" ++ importGroups i ++ ")\n" else ""

def omitText (f : Model.Field) : String := if f.optional then ",omitempty" else ""

def jsonKeyText (f : Model.Field) : String := Name.jsonKey f.name ++ omitText f

def eventTag (f : Model.Field) : String := "\x60json:\"" ++ jsonKeyText f ++ "\"\x60"

def storedKeyText (storage : String) (f : Model.Field) : String :=
  if storage == "mongo" then " bson:\"" ++ Name.documentKey f.name ++ omitText f ++ "\""
  else if !(Name.column f.name).isEmpty then " db:\"" ++ Name.column f.name ++ "\"" else ""

def entityTag (storage : String) (f : Model.Field) : String :=
  "\x60json:\"" ++ jsonKeyText f ++ "\"" ++ storedKeyText storage f ++ "\x60"

def fieldText (tag : Model.Field → String) (f : Model.Field) : String :=
  "\t" ++ f.goName ++ " " ++ Template.Helper.unqualify f.goType ++ " " ++ tag f ++ "\n"

def TypeDecl.text (tag : Model.Field → String) (t : TypeDecl) : String :=
  "type " ++ t.name ++ " struct \x7b\n" ++ String.join (t.fields.map (fieldText tag)) ++ "\x7d\n"

def remarkText (e : Model.Entity) : String :=
  "// " ++ e.name ++
    if !e.description.isEmpty then " " ++ e.description ++ "\n" else " is a domain entity.\n"

def transitionText (t : String × List String) : String :=
  "\t" ++ Text.goQuote t.1 ++ ": []string\x7b" ++ Text.join ", " (t.2.map Text.goQuote) ++ "\x7d,\n"

def transitionsText (name table field : String) (transitions : Dict (List String)) : String :=
  "\n// " ++ table ++ " lists the allowed " ++ field ++ " changes.\nvar " ++ table ++
    " = map[string][]string\x7b\n" ++ String.join (transitions.map transitionText) ++
    "\x7d\n\n// CanTransitionTo reports whether " ++ field ++ " may move to next.\nfunc (e *" ++
    name ++ ") CanTransitionTo(next string) bool \x7b\n\tfor _, allowed := range " ++ table ++
    "[string(e." ++ field ++
    (")] \x7b\n\t\tif allowed == next \x7b\n\t\t\treturn true\n\t\t\x7d\n\t\x7d\n" ++
    "\treturn false\n\x7d\n\n// TransitionTo moves ") ++ field ++
    " to next when the transition is allowed.\nfunc (e *" ++ name ++
    (") TransitionTo(next string) bool \x7b\n\tif !e.CanTransitionTo(next) \x7b\n" ++
    "\t\treturn false\n\t\x7d\n\te.") ++ field ++ " = next\n\treturn true\n\x7d\n"

def machineText (e : Model.Entity) : String :=
  match e.machine with
  | none => ""
  | some m =>
    transitionsText e.name (Text.lowerFirst e.name ++ "Transitions") (Name.exported m.field)
      (Dict.ofEntries m.transitions)

def EntityPage.type (p : EntityPage) : TypeDecl := { name := p.entity.name, fields := p.fields }

def entityText (h : Header) (p : EntityPage) : String :=
  stampText h "package domain\n" ++ importsText p.imports ++ "\n" ++ remarkText p.entity ++
    p.type.text (entityTag p.entity.storage) ++
    String.join (p.nested.map fun t => "\n" ++ t.text (entityTag p.entity.storage)) ++
    machineText p.entity

def eventType (e : Model.Event) : TypeDecl := { name := e.name, fields := e.fields }

def eventText (e : Model.Event) : String :=
  "\n// " ++ e.name ++ " event.\n" ++ (eventType e).text eventTag ++
    "\n// EventName returns the topic " ++ e.name ++ " is published on.\nfunc (" ++ e.name ++
    ") EventName() string \x7b return " ++ Text.goQuote e.name ++ " \x7d\n"

def eventsText (h : Header) (i : Imports) (events : List Model.Event) : String :=
  preamble h "domain" i ++ (")\n\n// Publisher delivers domain events to subscribers.\n" ++
    "type Publisher interface \x7b\n" ++
    "\tPublish(ctx context.Context, event string, payload any) error\n\x7d\n") ++
    String.join (events.map eventText)

open Template Bundled

variable {kit : HelperKit} {call : Caller} {s : Scope}

structure Fielded (kit : HelperKit) (call : Caller) (s : Scope) (f : Model.Field) : Prop where
  name : (Expr.attr (.var "f") "name").eval kit call s = .ok (some (.str f.name))
  goName : (Expr.attr (.var "f") "go_name").eval kit call s = .ok (some (.str f.goName))
  jsonKey : (Expr.attr (.var "f") "json_name").eval kit call s =
      .ok (some (.str (Name.jsonKey f.name)))
  column : (Expr.attr (.var "f") "db_name").eval kit call s = .ok (some (.str (Name.column f.name)))
  goType : (Expr.attr (.var "f") "go_type").eval kit call s = .ok (some (.str f.goType))
  optional : (Expr.attr (.var "f") "optional").eval kit call s = .ok (some (.bool f.optional))

theorem fielded_of_value {f : Model.Field} (h : s.value "f" = some f.toJson) :
    Fielded kit call s f := by
  cases f
  constructor
  all_goals
    rw [Expr.eval_attr (eval_var_eq h)]
    simp [Model.Field.toJson, Json.get?_obj_cons, Model.Field.goName]

theorem writes_omit {f : Model.Field} (hf : Fielded kit call s f) {nodes : List Node}
    {rest : String}
    {u : Scope} (hrest : Writes kit call s nodes rest u) :
    Writes kit call s (omitNode :: nodes) (omitText f ++ rest) u := by
  have homit : Writes kit call s [.text ",omitempty"] _ s := .text _ .nil
  rw [String.append_empty] at homit
  exact .either hf.optional rfl homit .nil hrest

theorem writes_jsonKey {f : Model.Field} (hf : Fielded kit call s f) :
    Writes kit call s jsonKeyNodes (jsonKeyText f) s := by
  have hwrites : Writes kit call s jsonKeyNodes _ s := .print hf.jsonKey <| writes_omit hf .nil
  simpa only [jsonKeyText, Value.printed, String.append_empty] using hwrites

theorem writes_tag {f : Model.Field} {storage : String} (hf : Fielded .mongo call s f)
    (hstorage : s.value "storage" = some (.str storage)) :
    Writes .mongo call s tagNodes (entityTag storage f) s := by
  have hmongo : (Expr.binary .equal (.var "storage") (.const (.str "mongo"))).eval .mongo call s =
      .ok (some (.bool (storage == "mongo"))) := Expr.eval_equal (eval_var_eq hstorage) "mongo"
  have hkey : (Expr.filter (.attr (.var "f") "name") "mongo_bson_name" []).eval .mongo call s =
      .ok (some (.str (Name.documentKey f.name))) := by
    rw [Expr.eval_filter hf.name, HelperKit.filter_documentKey]
  have hdocument : Writes .mongo call s
      [.text " bson:\"", .print (.filter (.attr (.var "f") "name") "mongo_bson_name" []), omitNode,
        .text "\""] _ s := .text _ <| .print hkey <| writes_omit hf <| .text _ .nil
  have hcolumn : Writes .mongo call s
      [.branch (.attr (.var "f") "db_name")
        [.text " db:\"", .print (.attr (.var "f") "db_name"), .text "\""] []] _ s :=
    .either hf.column rfl (.text _ <| .print hf.column <| .text _ .nil) .nil .nil
  have hwrites : Writes .mongo call s tagNodes _ s :=
    .append (.text _ (writes_jsonKey hf)) <| .text _ <| .either hmongo rfl hdocument hcolumn <|
    .text _ .nil
  unfold entityTag storedKeyText
  exact hwrites.of_eq (by
    simp only [Value.printed, Value.isTrue, String.append_assoc, String.append_empty])

theorem writes_field {f : Model.Field} {before after out : String} {nodes : List Node}
    {tag : Model.Field → String} (hf : Fielded kit call s f)
    (hnodes : Writes kit call s nodes out s)
    (hout : before ++ out ++ after = tag f) :
    Writes kit call s (fieldNodes before after nodes) (fieldText tag f) s := by
  have htype : (Expr.filter (.attr (.var "f") "go_type") "unqualify" []).eval kit call s =
      .ok (some (.str (Helper.unqualify f.goType))) := by
    rw [Expr.eval_filter hf.goType, HelperKit.filter_unqualify]
  have hopening : Writes kit call s
      [.text "\t", .print (.attr (.var "f") "go_name"), .text " ",
        .print (.filter (.attr (.var "f") "go_type") "unqualify" []), .text (" " ++ before)] _ s :=
    .text _ <| .print hf.goName <| .text _ <| .print htype <| .text _ .nil
  have hwrites : Writes kit call s (fieldNodes before after nodes) _ s :=
    (hopening.append hnodes).append (.text _ .nil)
  unfold fieldText
  rw [← hout]
  exact hwrites.of_eq (by simp only [Value.printed, String.append_assoc, String.append_empty])

theorem writes_struct {before after : String} {name fields : Expr} {field : List Node}
    {t : TypeDecl}
    {tag : Model.Field → String} (hname : name.eval kit call s = .ok (some (.str t.name)))
    (hfields : fields.eval kit call s = .ok (some (.arr (t.fields.map Model.Field.toJson))))
    (hfield : ∀ f ∈ t.fields, ∀ index length, ∃ u,
      Writes kit call (s.enter (Loop.frame "f" f.toJson index length)) field (fieldText tag f) u) :
    Writes kit call s (structNodes before after name fields field)
      (before ++ t.text tag ++ after) s := by
  have hwrites : Writes kit call s (structNodes before after name fields field) _ s :=
    .text _ <| .print hname <| .text _ <| .loop hfields hfield <| .text _ .nil
  unfold TypeDecl.text
  exact hwrites.of_eq (by simp only [Value.printed, String.append_assoc, String.append_empty])

/-- A scope in which the fields of an entity can be written: it knows the entity, and the part of
the template for tags. -/
structure Tagging (s : Scope) (e : Model.Entity) : Prop where
  routine : s.binding? "field_tags" = some (.routine ⟨["f", "storage"], tagNodes⟩)
  entity : s.value "entity" = some e.toJson

theorem Tagging.enter {e : Model.Entity} (hs : Tagging s e) {name : String}
    (hname : name ≠ "field_tags" ∧ name ≠ "entity") (item : Json) (index length : Nat) :
    Tagging (s.enter (Loop.frame name item index length)) e := by
  constructor
  · rw [Scope.binding?_enter_of_none, hs.routine]
    rw [Loop.frame, Dict.get?_insert, if_neg (by decide), Dict.get?_cons, if_neg hname.1.symm]
    rfl
  · rw [Loop.value_frame_of_ne hname.2.symm (by decide), hs.entity]

theorem eval_tag {depth : Nat} {e : Model.Entity} (hs : Tagging s e) {f : Model.Field}
    (hf : s.value "f" = some f.toJson) :
    (Expr.call (.var "field_tags") [.var "f", .attr (.var "entity") "storage"]).eval .mongo
      (Routine.callWithin .mongo (depth + 1)) s = .ok (some (.str (entityTag e.storage f))) := by
  have hstorage : (Expr.attr (.var "entity") "storage").eval .mongo
      (Routine.callWithin .mongo (depth + 1)) s = .ok (some (.str e.storage)) := by
    rw [Expr.eval_attr (eval_var_eq hs.entity)]
    simp [Model.Entity.toJson, Json.get?_obj_cons]
  have hargs : Expr.evalAll .mongo (Routine.callWithin .mongo (depth + 1)) s
      [.var "f", .attr (.var "entity") "storage"] = .ok [some f.toJson, some (.str e.storage)] :=
    Expr.evalAll_cons (eval_var_eq hf) (Expr.evalAll_cons hstorage rfl)
  rw [Expr.eval_call hargs hs.routine]
  apply Routine.callWithin_eq rfl
  apply writes_tag
  · apply fielded_of_value
    exact Scope.value_ofCall_of_some (Dict.get?_ofEntries_pair "f" "storage" "f" _ _)
  · exact Scope.value_ofCall_of_some (Dict.get?_ofEntries_pair "f" "storage" "storage" _ _)

theorem writes_entityField {depth : Nat} {e : Model.Entity} (hs : Tagging s e) (f : Model.Field)
    (index length : Nat) : ∃ after, Writes .mongo (Routine.callWithin .mongo (depth + 1))
      (s.enter (Loop.frame "f" f.toJson index length)) entityFieldNodes
      (fieldText (entityTag e.storage) f) after := by
  have hf := Loop.value_frame_name (s := s) (by decide : "f" ≠ "loop") f.toJson index length
  have htag : Writes .mongo (Routine.callWithin .mongo (depth + 1))
      (s.enter (Loop.frame "f" f.toJson index length))
      [.print (.call (.var "field_tags") [.var "f", .attr (.var "entity") "storage"])] _ _ :=
    .print (eval_tag (hs.enter (by decide) f.toJson index length) hf) .nil
  rw [Value.printed, String.append_empty] at htag
  exact ⟨_, writes_field (fielded_of_value hf) htag
    (by rw [String.empty_append, String.append_empty])⟩

theorem writes_importsNode {h : Header} {i : Imports} (hs : Stamped s h i) {nodes : List Node}
    {rest : String} {u : Scope} (hrest : Writes kit call s nodes rest u) :
    Writes kit call s (importsNode :: nodes) (importsText i ++ rest) u := by
  obtain ⟨hstd, hexternal⟩ := eval_imports kit call hs
  obtain ⟨any, hany, hblock⟩ := Expr.exists_eval_or hstd hexternal
  have hblock : any.isTrue = !i.isEmpty := by
    rw [hblock, Imports.isEmpty, Bool.not_and]
    simp [Value.isTrue, Json.strs]
  have hwrites : Writes kit call s (.text "\nimport (\n" :: importGroupNodes ++
      [Node.text ")\n"]) _ s :=
    (Writes.text "\nimport (\n" (writes_importGroups hs)).append (.text _ .nil)
  unfold importsText
  refine Writes.of_eq (.either hany hblock hwrites .nil hrest) ?_
  simp only [String.append_assoc, String.append_empty]

theorem eval_entity_attr (kit : HelperKit) (call : Caller) {e : Model.Entity}
    (hentity : s.value "entity" = some e.toJson) :
    (Expr.attr (.var "entity") "name").eval kit call s = .ok (some (.str e.name)) ∧
    (Expr.attr (.var "entity") "description").eval kit call s = .ok (some (.str e.description)) ∧
    (Expr.attr (.var "entity") "fsm").eval kit call s =
      .ok (some (.ofOption StateMachine.toJson e.machine)) := by
  refine ⟨?_, ?_, ?_⟩
  all_goals
    rw [Expr.eval_attr (eval_var_eq hentity)]
    simp [Model.Entity.toJson, Json.get?_obj_cons]

theorem writes_remark {e : Model.Entity} (hentity : s.value "entity" = some e.toJson)
    {nodes : List Node} {rest : String} {u : Scope} (hrest : Writes kit call s nodes rest u) :
    Writes kit call s (remarkNode :: nodes) (remarkText e ++ rest) u := by
  obtain ⟨hname, hdescription, -⟩ := eval_entity_attr kit call hentity
  have hyes : Writes kit call s
      [.text "// ", .print (.attr (.var "entity") "name"), .text " ",
        .print (.attr (.var "entity") "description"), .text "\n"] _ s :=
    .text _ <| .print hname <| .text _ <| .print hdescription <| .text _ .nil
  have hno : Writes kit call s
      [.text "// ", .print (.attr (.var "entity") "name"), .text " is a domain entity.\n"] _ s :=
    .text _ <| .print hname <| .text _ .nil
  refine Writes.of_eq (.either hdescription rfl hyes hno hrest) ?_
  unfold remarkText
  simp only [Value.printed, Value.isTrue, String.append_empty]
  cases e.description.isEmpty <;> simp [String.append_assoc]

theorem join_zipIdx (separator : String) (parts : List String) (start : Nat) :
    String.join ((parts.zipIdx start).map fun p =>
      p.1 ++ if !(p.2 + 1 == start + parts.length) then separator else "") =
        Text.join separator parts := by
  induction parts generalizing start with
  | nil => rfl
  | cons part parts ih =>
    rw [List.zipIdx_cons, List.map_cons, String.join_cons, List.length_cons]
    have hrest := ih (start + 1)
    rw [show start + 1 + parts.length = start + (parts.length + 1) by omega] at hrest
    rw [hrest]
    cases parts with
    | nil => simp [Text.join]
    | cons second parts =>
      have hmore : (start + 1 == start + ((second :: parts).length + 1)) = false := by simp
      rw [hmore, Text.join_cons_cons]
      rfl

theorem writes_target (state : String) (index length : Nat) : ∃ after,
    Writes kit call (s.enter (Loop.frame "to" (.str state) index length))
      [.print (.filter (.var "to") "go_quote" []),
        .branch (.not (.attr (.var "loop") "last")) [.text ", "] []]
      (Text.goQuote state ++ if !(index + 1 == length) then ", " else "") after := by
  have hto := Loop.value_frame_name (s := s) (by decide : "to" ≠ "loop") (.str state) index length
  have hlast : (Expr.attr (.var "loop") "last").eval kit call
      (s.enter (Loop.frame "to" (.str state) index length)) =
        .ok (some (.bool (index + 1 == length))) := by
    rw [Expr.eval_attr (eval_var_eq (Loop.value_frame_loop _ _ _ _))]
    simp [Loop.round, Json.get?_obj_cons]
  have hwrites : Writes kit call _
      [.print (.filter (.var "to") "go_quote" []),
        .branch (.not (.attr (.var "loop") "last")) [.text ", "] []] _ _ :=
    .print (Expr.eval_goQuote (eval_var_eq hto)) <|
    .either (Expr.eval_not hlast) rfl (.text _ .nil) .nil .nil
  exact ⟨_, hwrites.of_eq (by simp only [Value.printed, Value.isTrue, String.append_empty])⟩

theorem writes_transition {q : String × List String} (hfrom : s.value "from" = some (.str q.1))
    (htargets : s.value "targets" = some (.strs q.2)) :
    Writes kit call s transitionNodes (transitionText q) s := by
  have hframe (state : String) (_ : state ∈ q.2) :
      Loop.targetFrame ["to"] (.str state) = .ok [("to", .value (some (.str state)))] := rfl
  have hwrites : Writes kit call s transitionNodes _ s :=
    .text _ <| .print (Expr.eval_goQuote (eval_var_eq hfrom)) <| .text _ <|
    .rounds (eval_var_eq htargets) hframe (fun state _ index =>
      writes_target state index q.2.length) <|
    .text _ .nil
  have hjoin := join_zipIdx ", " (q.2.map Text.goQuote) 0
  rw [List.zipIdx_map, List.map_map, List.length_map, Nat.zero_add] at hjoin
  unfold transitionText
  rw [← hjoin]
  exact hwrites.of_eq (by
    simp only [Value.printed, String.append_assoc, String.append_empty, Function.comp_def, Prod.map,
      id_eq])

theorem eval_transitions {e : Model.Entity} {m : StateMachine}
    (hentity : s.value "entity" = some e.toJson) (hm : e.machine = some m) :
    (Expr.filter (.attr (.attr (.var "entity") "fsm") "transitions") "items" []).eval kit call s =
      .ok (some (.arr ((Dict.ofEntries m.transitions).map fun q =>
        .arr [.str q.1, .strs q.2]))) := by
  obtain ⟨-, -, hfsm⟩ := eval_entity_attr kit call hentity
  rw [hm] at hfsm
  have htransitions : (Expr.attr (.attr (.var "entity") "fsm") "transitions").eval kit call s =
      .ok (some (.obj (m.transitions.map fun q => (q.1, .strs q.2)))) := by
    rw [Expr.eval_attr hfsm]
    simp [Json.ofOption, StateMachine.toJson, Json.get?_obj_cons]
  rw [Expr.eval_filter htransitions, HelperKit.filter_items,
    Dict.ofEntries_map Json.strs, List.map_map]
  rfl

theorem writes_transitions {source : Expr} {transitions : Dict (List String)}
    (hsource : source.eval kit call s =
      .ok (some (.arr (transitions.map fun q => .arr [.str q.1, .strs q.2]))))
    {nodes : List Node} {rest : String} {u : Scope} (hrest : Writes kit call s nodes rest u) :
    Writes kit call s (.loop ["from", "targets"] source none transitionNodes [] :: nodes)
      (String.join (transitions.map transitionText) ++ rest) u := by
  refine .pairs hsource (fun q _ index => ⟨_, writes_transition ?_ ?_⟩) hrest
  all_goals
    apply Scope.value_enter_of_some
    rw [Loop.get?_pairFrame (by decide)]
    rfl

theorem writes_machineNodes {e : Model.Entity} {m : StateMachine}
    (hentity : s.value "entity" = some e.toJson) (hm : e.machine = some m) :
    ∃ after, Writes kit call s machineNodes (machineText e) after := by
  let fielded := s.bind "fsm_field" (.value (some (.str (Name.exported m.field))))
  let named := fielded.bind "table" (.value (some (.str (Text.lowerFirst e.name ++ "Transitions"))))
  have hfielded : fielded.value "entity" = some e.toJson := by
    rw [Scope.value_bind_of_ne (by decide), hentity]
  have hnamed : named.value "entity" = some e.toJson := by
    rw [Scope.value_bind_of_ne (by decide), hfielded]
  have hfield : (Expr.filter (.attr (.attr (.var "entity") "fsm") "field") "export" []).eval
      kit call s =
      .ok (some (.str (Name.exported m.field))) := by
    obtain ⟨-, -, hfsm⟩ := eval_entity_attr kit call hentity
    rw [hm] at hfsm
    have hdeclared : (Expr.attr (.attr (.var "entity") "fsm") "field").eval kit call s =
        .ok (some (.str m.field)) := by
      rw [Expr.eval_attr hfsm]
      simp [Json.ofOption, StateMachine.toJson, Json.get?_obj_cons]
    rw [Expr.eval_filter hdeclared, HelperKit.filter_export]
  have htable : (Expr.binary .concat (.filter (.attr (.var "entity") "name") "lower_first" [])
      (.const (.str "Transitions"))).eval kit call fielded =
        .ok (some (.str (Text.lowerFirst e.name ++ "Transitions"))) := by
    have hlower : (Expr.filter (.attr (.var "entity") "name") "lower_first" []).eval
        kit call fielded =
        .ok (some (.str (Text.lowerFirst e.name))) := by
      rw [Expr.eval_filter (eval_entity_attr kit call hfielded).1, HelperKit.filter_lowerFirst]
    rw [Expr.eval_binary hlower (Expr.eval_const _)]
    rfl
  have hf : (Expr.var "fsm_field").eval kit call named =
      .ok (some (.str (Name.exported m.field))) := by
    rw [Expr.eval_var, Scope.value_bind_of_ne (by decide), Scope.value_bind_self]
  have ht : (Expr.var "table").eval kit call named =
      .ok (some (.str (Text.lowerFirst e.name ++ "Transitions"))) := by
    rw [Expr.eval_var, Scope.value_bind_self]
  have hname : (Expr.attr (.var "entity") "name").eval kit call named = .ok (some (.str e.name)) :=
    (eval_entity_attr kit call hnamed).1
  have hwrites : Writes kit call s machineNodes _ named :=
    .set hfield <| .set htable <| .text _ <| .print ht <| .text _ <| .print hf <| .text _ <|
    .print ht <| .text _ <| writes_transitions (eval_transitions hnamed hm) <| .text _ <|
    .print hf <| .text _ <| .print hname <| .text _ <| .print ht <| .text _ <| .print hf <|
    .text _ <| .print hf <| .text _ <| .print hname <| .text _ <| .print hf <| .text _ .nil
  unfold machineText
  rw [hm]
  unfold transitionsText
  exact ⟨named,
    hwrites.of_eq (by simp only [Value.printed, String.append_assoc, String.append_empty])⟩

theorem writes_machine {e : Model.Entity} (hentity : s.value "entity" = some e.toJson) :
    ∃ after, Writes kit call s [.branch (.attr (.var "entity") "fsm") machineNodes []]
      (machineText e)
      after := by
  obtain ⟨-, -, hfsm⟩ := eval_entity_attr kit call hentity
  cases hm : e.machine with
  | none =>
    rw [hm] at hfsm
    unfold machineText
    rw [hm]
    exact ⟨s, .otherwise hfsm rfl .nil⟩
  | some m =>
    rw [hm] at hfsm
    obtain ⟨after, hwrites⟩ := writes_machineNodes hentity hm
    exact ⟨after, .chosen hfsm rfl hwrites⟩

theorem writes_domain {depth : Nat} {h : Header} {p : EntityPage} (hs : Stamped s h p.imports)
    (hentity : s.value "entity" = some p.entity.toJson)
    (hfields : s.value "fields" = some (.arr (Model.fieldsJson p.fields)))
    (hnested : s.value "nested" = some (.arr (p.nested.map TypeDecl.toJson))) :
    ∃ after, Writes .mongo (Routine.callWithin .mongo (depth + 1)) s domainNodes (entityText h p)
      after := by
  let call := Routine.callWithin .mongo (depth + 1)
  let tagged := s.bind "field_tags" (.routine ⟨["f", "storage"], tagNodes⟩)
  have htagging : Tagging tagged p.entity := by
    constructor
    · exact Scope.binding?_bind_self
    · rw [Scope.value_bind_of_ne (by decide), hentity]
  have hname : (Expr.attr (.var "entity") "name").eval .mongo call tagged =
      .ok (some (.str p.type.name)) :=
    (eval_entity_attr .mongo call htagging.entity).1
  have hfields : (Expr.var "fields").eval .mongo call tagged =
      .ok (some (.arr (p.type.fields.map Model.Field.toJson))) := by
    rw [Expr.eval_var, Scope.value_bind_of_ne (by decide), hfields, fieldsJson_eq_map]
    rfl
  have hnested : (Expr.var "nested").eval .mongo call tagged =
      .ok (some (.arr (p.nested.map TypeDecl.toJson))) := by
    rw [Expr.eval_var, Scope.value_bind_of_ne (by decide), hnested]
  have hitem (t : TypeDecl) (_ : t ∈ p.nested) (index length : Nat) : ∃ after,
      Writes .mongo call (tagged.enter (Loop.frame "t" t.toJson index length))
        (structNodes "\n" "" (.attr (.var "t") "name") (.attr (.var "t") "fields") entityFieldNodes)
        ("\n" ++ t.text (entityTag p.entity.storage) ++ "") after := by
    have ht := Loop.value_frame_name (s := tagged) (by decide : "t" ≠ "loop") t.toJson index length
    refine ⟨_, writes_struct ?_ ?_ fun f _ =>
      writes_entityField (htagging.enter (by decide) t.toJson index length) f⟩
    all_goals
      rw [Expr.eval_attr (eval_var_eq ht)]
      simp [TypeDecl.toJson, Json.get?_obj_cons, fieldsJson_eq_map]
  obtain ⟨after, hmachine⟩ : ∃ after, Writes .mongo call tagged
      [.branch (.attr (.var "entity") "fsm") machineNodes []] (machineText p.entity) after :=
    writes_machine htagging.entity
  have htype : Writes .mongo call tagged
      (structNodes "" "" (.attr (.var "entity") "name") (.var "fields") entityFieldNodes)
      _ tagged :=
    writes_struct hname hfields fun f _ => writes_entityField htagging f
  have hbody : Writes .mongo call s
      (importsNode :: .define "field_tags" ["f", "storage"] tagNodes :: .text "\n" :: remarkNode ::
        (structNodes "" "" (.attr (.var "entity") "name") (.var "fields") entityFieldNodes ++
          nestedNodes)) _ after :=
    writes_importsNode hs <| .define <| .text _ <| writes_remark htagging.entity <|
    htype.append <| .loop hnested hitem hmachine
  have hwrites := (writes_stamp hs "package domain\n").append hbody
  unfold entityText
  exact ⟨after, hwrites.of_eq (by
    simp only [String.append_assoc, String.append_empty, String.empty_append])⟩

theorem writes_eventField (f : Model.Field) (index length : Nat) : ∃ after,
    Writes kit call (s.enter (Loop.frame "f" f.toJson index length))
      (fieldNodes "\x60json:\"" "\"\x60" jsonKeyNodes) (fieldText eventTag f) after := by
  have hf := Loop.value_frame_name (s := s) (by decide : "f" ≠ "loop") f.toJson index length
  have hfielded : Fielded kit call _ f := fielded_of_value hf
  exact ⟨_, writes_field hfielded (writes_jsonKey hfielded) rfl⟩

theorem writes_event {e : Model.Event} (he : s.value "ev" = some e.toJson) :
    Writes kit call s eventNodes (eventText e) s := by
  have hname : (Expr.attr (.var "ev") "name").eval kit call s =
      .ok (some (.str (eventType e).name)) := by
    rw [Expr.eval_attr (eval_var_eq he)]
    simp [Model.Event.toJson, Json.get?_obj_cons, eventType]
  have hfields : (Expr.attr (.var "ev") "fields").eval kit call s =
      .ok (some (.arr ((eventType e).fields.map Model.Field.toJson))) := by
    rw [Expr.eval_attr (eval_var_eq he)]
    simp [Model.Event.toJson, Json.get?_obj_cons, eventType, fieldsJson_eq_map]
  have hopening : Writes kit call s [.text "\n// ", .print (.attr (.var "ev") "name")] _ s :=
    .text _ <| .print hname .nil
  have htype : Writes kit call s
      (structNodes " event.\n" "\n// EventName returns the topic " (.attr (.var "ev") "name")
        (.attr (.var "ev") "fields") (fieldNodes "\x60json:\"" "\"\x60" jsonKeyNodes)) _ s :=
    writes_struct hname hfields fun f _ => writes_eventField f
  have hwrites : Writes kit call s eventNodes _ s :=
    (hopening.append htype).append <| .print hname <| .text _ <| .print hname <| .text _ <|
    .print (Expr.eval_goQuote hname) <| .text _ .nil
  unfold eventText
  exact hwrites.of_eq
    (by simp only [Value.printed, eventType, String.append_assoc, String.append_empty])

theorem writes_events {h : Header} {i : Imports} {events : List Model.Event} (hs : Stamped s h i)
    (hevents : s.value "events" = some (.arr (events.map Model.Event.toJson))) :
    Writes kit call s eventsNodes (eventsText h i events) s := by
  have hevent (e : Model.Event) (_ : e ∈ events) (index length : Nat) : ∃ after,
      Writes kit call (s.enter (Loop.frame "ev" e.toJson index length)) eventNodes
      (eventText e) after :=
    ⟨_, writes_event (Loop.value_frame_name (by decide) e.toJson index length)⟩
  have hwrites : Writes kit call s eventsNodes _ s :=
    (writes_preamble hs "domain").append <| .text _ <| .loop (eval_var_eq hevents) hevent .nil
  unfold eventsText
  exact hwrites.of_eq (by simp only [String.append_assoc, String.append_empty])

end Artifact

end GoScaffold
