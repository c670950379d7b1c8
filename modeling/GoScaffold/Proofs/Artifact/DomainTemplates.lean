import GoScaffold.Proofs.Artifact.RepositoryTemplates

/-! The bundled templates of the domain package, put together from parts: a struct type is written
in the same way for an entity, for the items of a list and for an event. -/

namespace GoScaffold.Bundled

open Template

def structNodes (before after : String) (name fields : Expr) (field : List Node) : List Node := [
  .text (before ++ "type "), .print name, .text " struct \x7b\n", .loop ["f"] fields none field [],
  .text ("\x7d\n" ++ after)]

def fieldNodes (before after : String) (tag : List Node) : List Node :=
  [Node.text "\t", .print (.attr (.var "f") "go_name"), .text " ",
    .print (.filter (.attr (.var "f") "go_type") "unqualify" []), .text (" " ++ before)] ++ tag ++
  [Node.text (after ++ "\n")]

def omitNode : Node := .branch (.attr (.var "f") "optional") [.text ",omitempty"] []

def jsonKeyNodes : List Node := [.print (.attr (.var "f") "json_name"), omitNode]

def tagNodes : List Node :=
  .text "\x60json:\"" :: jsonKeyNodes ++ [Node.text "\"",
  .branch (.binary .equal (.var "storage") (.const (.str "mongo")))
    [.text " bson:\"", .print (.filter (.attr (.var "f") "name") "mongo_bson_name" []), omitNode,
      .text "\""]
    [.branch (.attr (.var "f") "db_name")
      [.text " db:\"", .print (.attr (.var "f") "db_name"), .text "\""] []],
  .text "\x60"]

def entityFieldNodes : List Node := fieldNodes "" ""
  [.print (.call (.var "field_tags") [.var "f", .attr (.var "entity") "storage"])]

def transitionNodes : List Node := [
  .text "\t", .print (.filter (.var "from") "go_quote" []), .text ": []string\x7b",
  .loop ["to"] (.var "targets") none
    [.print (.filter (.var "to") "go_quote" []),
      .branch (.not (.attr (.var "loop") "last")) [.text ", "] []] [],
  .text "\x7d,\n"]

def machineNodes : List Node := [
  .set "fsm_field" (.filter (.attr (.attr (.var "entity") "fsm") "field") "export" []),
  .set "table" (.binary .concat (.filter (.attr (.var "entity") "name") "lower_first" [])
    (.const (.str "Transitions"))),
  .text "\n// ", .print (.var "table"), .text " lists the allowed ", .print (.var "fsm_field"),
  .text " changes.\nvar ", .print (.var "table"), .text " = map[string][]string\x7b\n",
  .loop ["from", "targets"] (.filter (.attr (.attr (.var "entity") "fsm") "transitions") "items" [])
    none transitionNodes [],
  .text "\x7d\n\n// CanTransitionTo reports whether ", .print (.var "fsm_field"),
  .text " may move to next.\nfunc (e *", .print (.attr (.var "entity") "name"),
  .text ") CanTransitionTo(next string) bool \x7b\n\tfor _, allowed := range ",
  .print (.var "table"), .text "[string(e.", .print (.var "fsm_field"),
  .text (")] \x7b\n\t\tif allowed == next \x7b\n\t\t\treturn true\n\t\t\x7d\n\t\x7d\n" ++
    "\treturn false\n\x7d\n\n// TransitionTo moves "),
  .print (.var "fsm_field"), .text " to next when the transition is allowed.\nfunc (e *",
  .print (.attr (.var "entity") "name"),
  .text (") TransitionTo(next string) bool \x7b\n\tif !e.CanTransitionTo(next) \x7b\n" ++
    "\t\treturn false\n\t\x7d\n\te."),
  .print (.var "fsm_field"), .text " = next\n\treturn true\n\x7d\n"]

def remarkNode : Node := .branch (.attr (.var "entity") "description")
  [.text "// ", .print (.attr (.var "entity") "name"), .text " ",
    .print (.attr (.var "entity") "description"), .text "\n"]
  [.text "// ", .print (.attr (.var "entity") "name"), .text " is a domain entity.\n"]

def importsNode : Node :=
  .branch (.or (.attr (.var "imports") "std") (.attr (.var "imports") "external"))
    (.text "\nimport (\n" :: importGroupNodes ++ [Node.text ")\n"]) []

def nestedNodes : List Node := [
  .loop ["t"] (.var "nested") none
    (structNodes "\n" "" (.attr (.var "t") "name") (.attr (.var "t") "fields") entityFieldNodes) [],
  .branch (.attr (.var "entity") "fsm") machineNodes []]

def domainNodes : Template := stampNodes "package domain\n" ++ [
  importsNode, .define "field_tags" ["f", "storage"] tagNodes, .text "\n", remarkNode] ++
  structNodes "" "" (.attr (.var "entity") "name") (.var "fields") entityFieldNodes ++ nestedNodes

def eventNodes : List Node :=
  [Node.text "\n// ", .print (.attr (.var "ev") "name")] ++
  structNodes " event.\n" "\n// EventName returns the topic " (.attr (.var "ev") "name")
    (.attr (.var "ev") "fields") (fieldNodes "\x60json:\"" "\"\x60" jsonKeyNodes) ++ [
  Node.print (.attr (.var "ev") "name"), .text " is published on.\nfunc (",
  .print (.attr (.var "ev") "name"), .text ") EventName() string \x7b return ",
  .print (.filter (.attr (.var "ev") "name") "go_quote" []), .text " \x7d\n"]

def eventsNodes : Template := preambleNodes "domain" ++ [
  Node.text (")\n\n// Publisher delivers domain events to subscribers.\n" ++
    "type Publisher interface \x7b\n" ++
    "\tPublish(ctx context.Context, event string, payload any) error\n\x7d\n"),
  .loop ["ev"] (.var "events") none eventNodes []]

theorem parse?_domain : parse? domain = some domainNodes := by
  apply parse?_unlines
  · repeat' first | exact Text.Spelled.nil | apply Text.Spelled.cons | rfl
  · decide +kernel

theorem parse?_events : parse? events = some eventsNodes := by
  apply parse?_unlines
  · repeat' first | exact Text.Spelled.nil | apply Text.Spelled.cons | rfl
  · decide +kernel

end GoScaffold.Bundled
