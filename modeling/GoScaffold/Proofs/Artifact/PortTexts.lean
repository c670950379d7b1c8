import GoScaffold.Artifact.Service
import GoScaffold.Proofs.Artifact.DomainTypes

/-! The interface of a service, word for word: the types of what its methods take and give, with the
JSON key of every field in its tag, and the methods themselves. The bundled template writes just
that. -/

namespace GoScaffold

namespace Bundled

open Template

def describedNode (indent x : String) (otherwise : List Node) : Node :=
  .branch (.attr (.var x) "description")
    [.text (indent ++ "// "), .print (.attr (.var x) "name"), .text " ",
      .print (.attr (.var x) "description"), .text "\n"]
    otherwise

def validateNode : Node :=
  .branch (.attr (.var "f") "binding")
    [.text " validate:\"", .print (.attr (.var "f") "binding"), .text "\""] []

def portFieldNodes : List Node :=
  [Node.text "\t", .print (.attr (.var "f") "go_name"), .text " ",
    .print (.attr (.var "f") "go_type"), .text (" " ++ "\x60json:\"")] ++ jsonKeyNodes ++
    [Node.text "\"", validateNode, .text ("\x60" ++ "\n")]

def portTypeNodes : List Node :=
  [Node.text "\n", describedNode "" "t" []] ++
    structNodes "" "" (.attr (.var "t") "name") (.attr (.var "t") "fields") portFieldNodes

def portMethodNodes : List Node := [
  describedNode "\t" "m" [], .text "\t", .print (.attr (.var "m") "name"), .text "(",
  .print (.attr (.attr (.var "m") "port_signature") "params"), .text ") ",
  .print (.attr (.attr (.var "m") "port_signature") "results"), .text "\n"]

def servicePortNodes : Template := preambleNodes "port" ++ [
  Node.text ")\n", .loop ["t"] (.var "types") none portTypeNodes [], .text "\n",
  describedNode "" "service"
    [.text "// ", .print (.attr (.var "service") "name"), .text " is the ",
      .print (.attr (.var "service") "name"), .text " service port.\n"],
  .text "type ", .print (.attr (.var "service") "name"), .text " interface \x7b\n",
  .loop ["m"] (.attr (.var "service") "methods") none portMethodNodes [], .text "\x7d\n",
  .branch (.attr (.var "service") "needs_tx")
    [.text "\n// ", .print (.attr (.var "service") "name"), .text "Tx scopes a unit of work of ",
      .print (.attr (.var "service") "name"),
      .text ". End commits\n// when err is nil and rolls back otherwise.\ntype ",
      .print (.attr (.var "service") "name"),
      .text ("Tx interface \x7b\n\tBegin(ctx context.Context) (context.Context, error)\n" ++
        "\tEnd(ctx context.Context, err error) error\n\x7d\n")]
    []]

theorem parse?_service : parse? service = some servicePortNodes := by
  apply parse?_unlines
  · repeat' first | exact Text.Spelled.nil | apply Text.Spelled.cons | rfl
  · decide +kernel

end Bundled

namespace Artifact

def describedText (indent name description otherwise : String) : String :=
  if !description.isEmpty then indent ++ "// " ++ name ++ " " ++ description ++ "\n" else otherwise

def validateText (f : Model.Field) : String :=
  if !f.binding.isEmpty then " validate:\"" ++ f.binding ++ "\"" else ""

def portTag (f : Model.Field) : String :=
  "\x60json:\"" ++ jsonKeyText f ++ "\"" ++ validateText f ++ "\x60"

def portFieldText (f : Model.Field) : String :=
  "\t" ++ f.goName ++ " " ++ f.goType ++ " " ++ portTag f ++ "\n"

def portTypeText (t : TypeDecl) : String :=
  "\n" ++ describedText "" t.name t.description "" ++ "type " ++ t.name ++ " struct \x7b\n" ++
    String.join (t.fields.map portFieldText) ++ "\x7d\n"

def portMethodText (m : Model.Method) : String :=
  describedText "\t" m.name m.description "" ++ "\t" ++ m.name ++ "(" ++
    m.portSignature.params ++ ") " ++ m.portSignature.results ++ "\n"

def transactionText (service : Model.Service) : String :=
  if service.needsTx then
    "\n// " ++ service.name ++ "Tx scopes a unit of work of " ++ service.name ++
      ". End commits\n// when err is nil and rolls back otherwise.\ntype " ++ service.name ++
      ("Tx interface \x7b\n\tBegin(ctx context.Context) (context.Context, error)\n" ++
        "\tEnd(ctx context.Context, err error) error\n\x7d\n")
  else ""

def portImports (h : Header) (service : Model.Service) : Imports :=
  .ofCode h.module (Text.join "\n" ((portTypes service).flatMap fun t =>
    t.fields.map Model.Field.goType)) ["context"]

def servicePortText (h : Header) (i : Imports) (types : List TypeDecl) (service : Model.Service) :
    String :=
  preamble h "port" i ++ ")\n" ++ String.join (types.map portTypeText) ++ "\n" ++
    describedText "" service.name service.description
      ("// " ++ service.name ++ " is the " ++ service.name ++ " service port.\n") ++
    "type " ++ service.name ++ " interface \x7b\n" ++
    String.join (service.methods.map portMethodText) ++ "\x7d\n" ++ transactionText service

open Template Bundled

variable {kit : HelperKit} {call : Caller} {s : Scope}

theorem writes_described {indent x name description otherwise : String} {no : List Node}
    (hname : (Expr.attr (.var x) "name").eval kit call s = .ok (some (.str name)))
    (hdescription : (Expr.attr (.var x) "description").eval kit call s =
      .ok (some (.str description)))
    (hno : Writes kit call s no otherwise s) {nodes : List Node} {rest : String} {u : Scope}
    (hrest : Writes kit call s nodes rest u) :
    Writes kit call s (describedNode indent x no :: nodes)
    (describedText indent name description otherwise ++ rest)
      u := by
  have hyes : Writes kit call s
      [.text (indent ++ "// "), .print (.attr (.var x) "name"), .text " ",
        .print (.attr (.var x) "description"), .text "\n"] _ s :=
    .text _ <| .print hname <| .text _ <| .print hdescription <| .text _ .nil
  refine Writes.of_eq (.either hdescription rfl hyes hno hrest) ?_
  simp only [describedText, Value.printed, Value.isTrue, String.append_assoc, String.append_empty]

theorem writes_portField {f : Model.Field} (h : s.value "f" = some f.toJson) :
    Writes kit call s portFieldNodes (portFieldText f) s := by
  have hf : Fielded kit call s f := fielded_of_value h
  have hbinding : (Expr.attr (.var "f") "binding").eval kit call s =
      .ok (some (.str f.binding)) := by
    cases f
    rw [Expr.eval_attr (eval_var_eq h)]
    simp [Model.Field.toJson, Json.get?_obj_cons]
  have hopening : Writes kit call s
      [.text "\t", .print (.attr (.var "f") "go_name"), .text " ",
        .print (.attr (.var "f") "go_type"), .text (" " ++ "\x60json:\"")] _ s :=
    .text _ <| .print hf.goName <| .text _ <| .print hf.goType <| .text _ .nil
  have hvalidate : Writes kit call s [.text " validate:\"", .print (.attr (.var "f") "binding"),
      .text "\""] _ s :=
    .text _ <| .print hbinding <| .text _ .nil
  have hwrites : Writes kit call s portFieldNodes _ s :=
    (hopening.append (writes_jsonKey hf)).append <| .text _ <|
      .either hbinding rfl hvalidate .nil <| .text _ .nil
  unfold portFieldText portTag validateText
  refine hwrites.of_eq ?_
  simp only [Value.printed, Value.isTrue, String.append_assoc, String.append_empty]

theorem eval_type_attr (kit : HelperKit) (call : Caller) {t : TypeDecl}
    (h : s.value "t" = some t.toJson) :
    (Expr.attr (.var "t") "name").eval kit call s = .ok (some (.str t.name)) ∧
      (Expr.attr (.var "t") "description").eval kit call s = .ok (some (.str t.description)) ∧
      (Expr.attr (.var "t") "fields").eval kit call s =
      .ok (some (.arr (t.fields.map Model.Field.toJson))) := by
  refine ⟨?_, ?_, ?_⟩
  all_goals
    rw [Expr.eval_attr (eval_var_eq h)]
    simp [TypeDecl.toJson, Json.get?_obj_cons, fieldsJson_eq_map]

theorem writes_portType {t : TypeDecl} (h : s.value "t" = some t.toJson) :
    Writes kit call s portTypeNodes (portTypeText t) s := by
  obtain ⟨hname, hdescription, hfields⟩ := eval_type_attr kit call h
  have hfield (f : Model.Field) (_ : f ∈ t.fields) (index length : Nat) : ∃ after,
      Writes kit call (s.enter (Loop.frame "f" f.toJson index length)) portFieldNodes
      (portFieldText f) after :=
    ⟨_, writes_portField (Loop.value_frame_name (by decide) _ _ _)⟩
  have hstruct : Writes kit call s (structNodes "" "" (.attr (.var "t") "name")
      (.attr (.var "t") "fields")
      portFieldNodes) _ s :=
    .text _ <| .print hname <| .text _ <| .loop hfields hfield <| .text _ .nil
  have hwrites : Writes kit call s portTypeNodes _ s :=
    .text _ <| writes_described hname hdescription .nil hstruct
  unfold portTypeText
  refine hwrites.of_eq ?_
  simp only [Value.printed, String.append_assoc, String.append_empty, String.empty_append]

theorem eval_method_attr (kit : HelperKit) (call : Caller) {m : Model.Method}
    (h : s.value "m" = some m.toJson) :
    (Expr.attr (.var "m") "name").eval kit call s = .ok (some (.str m.name)) ∧
      (Expr.attr (.var "m") "description").eval kit call s = .ok (some (.str m.description)) ∧
      (Expr.attr (.var "m") "port_signature").eval kit call s =
      .ok (some m.portSignature.toJson) := by
  refine ⟨?_, ?_, ?_⟩
  all_goals
    rw [Expr.eval_attr (eval_var_eq h)]
    simp [Model.Method.toJson, Json.get?_obj_cons]

theorem writes_portMethod {m : Model.Method} (h : s.value "m" = some m.toJson) :
    Writes kit call s portMethodNodes (portMethodText m) s := by
  obtain ⟨hname, hdescription, hsignature⟩ := eval_method_attr kit call h
  have hparams : (Expr.attr (.attr (.var "m") "port_signature") "params").eval kit call s =
      .ok (some (.str m.portSignature.params)) := by
    rw [Expr.eval_attr hsignature]
    simp [MethodSignature.toJson, Json.get?_obj_cons]
  have hresults : (Expr.attr (.attr (.var "m") "port_signature") "results").eval kit call s =
      .ok (some (.str m.portSignature.results)) := by
    rw [Expr.eval_attr hsignature]
    simp [MethodSignature.toJson, Json.get?_obj_cons]
  have hwrites : Writes kit call s portMethodNodes _ s :=
    writes_described hname hdescription .nil <| .text _ <| .print hname <| .text _ <|
      .print hparams <| .text _ <|
    .print hresults <| .text _ .nil
  unfold portMethodText
  refine hwrites.of_eq ?_
  simp only [Value.printed, String.append_assoc, String.append_empty]

theorem eval_service_attr (kit : HelperKit) (call : Caller) {service : Model.Service}
    (h : s.value "service" = some service.toJson) :
    (Expr.attr (.var "service") "name").eval kit call s = .ok (some (.str service.name)) ∧
      (Expr.attr (.var "service") "description").eval kit call s =
      .ok (some (.str service.description)) ∧
      (Expr.attr (.var "service") "methods").eval kit call s =
        .ok (some (.arr (service.methods.map Model.Method.toJson))) ∧
      (Expr.attr (.var "service") "needs_tx").eval kit call s =
      .ok (some (.bool service.needsTx)) := by
  refine ⟨?_, ?_, ?_, ?_⟩
  all_goals
    rw [Expr.eval_attr (eval_var_eq h)]
    simp [Model.Service.toJson, Json.get?_obj_cons]

theorem writes_servicePort {h : Header} {i : Imports} {types : List TypeDecl}
    {service : Model.Service}
    (hs : Stamped s h i) (hservice : s.value "service" = some service.toJson)
    (htypes : s.value "types" = some (.arr (types.map TypeDecl.toJson))) :
    Writes kit call s servicePortNodes (servicePortText h i types service) s := by
  obtain ⟨hname, hdescription, hmethods, htx⟩ := eval_service_attr kit call hservice
  have htype (t : TypeDecl) (_ : t ∈ types) (index length : Nat) : ∃ after,
      Writes kit call (s.enter (Loop.frame "t" t.toJson index length)) portTypeNodes
      (portTypeText t) after :=
    ⟨_, writes_portType (Loop.value_frame_name (by decide) _ _ _)⟩
  have hmethod (m : Model.Method) (_ : m ∈ service.methods) (index length : Nat) : ∃ after,
      Writes kit call (s.enter (Loop.frame "m" m.toJson index length)) portMethodNodes
      (portMethodText m) after :=
    ⟨_, writes_portMethod (Loop.value_frame_name (by decide) _ _ _)⟩
  have hremark : Writes kit call s
      [.text "// ", .print (.attr (.var "service") "name"), .text " is the ",
        .print (.attr (.var "service") "name"), .text " service port.\n"] _ s :=
    .text _ <| .print hname <| .text _ <| .print hname <| .text _ .nil
  have hwrites : Writes kit call s servicePortNodes _ s :=
    (writes_preamble hs "port").append <| .text _ <| .loop (eval_var_eq htypes) htype <| .text _ <|
    writes_described hname hdescription hremark <| .text _ <| .print hname <| .text _ <|
      .loop hmethods hmethod <|
    .text _ <| .either htx rfl
      (.text _ <| .print hname <| .text _ <| .print hname <| .text _ <| .print hname <|
        .text _ .nil) .nil .nil
  unfold servicePortText transactionText
  refine hwrites.of_eq ?_
  simp only [Value.printed, Value.isTrue, String.append_assoc, String.append_empty]

theorem texts_servicePorts (h : Header) (model : Model) (tree : FileTree) :
    (servicePorts h model).map (bundledText tree) = model.services.map fun service =>
      .ok (servicePortText h (portImports h service) (portTypes service) service) := by
  unfold servicePorts
  rw [List.map_map]
  apply List.map_congr_left
  intro service _
  -- the composition is opened first: unification through it would unfold the texts
  rw [Function.comp_apply]
  have hsource : Bundled.template? Family.servicePorts.template = some Bundled.service := rfl
  have hwrites : Writes .goTypes (Routine.callWithin .goTypes callLimit)
      ⟨[[]], h.told [("service", service.toJson),
        ("types", .arr ((portTypes service).map TypeDecl.toJson)),
        ("imports", (portImports h service).toJson)]⟩ servicePortNodes
      (servicePortText h (portImports h service) (portTypes service) service) _ :=
    writes_servicePort (stamped_told rfl) (value_told (by decide) rfl) (value_told (by decide) rfl)
  exact bundledText_of_writes hsource Bundled.parse?_service hwrites

end Artifact

end GoScaffold
