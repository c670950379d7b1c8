import GoScaffold.Template.Helper

/-! Rendering: the text of a template for given values. -/

namespace GoScaffold.Template

structure Routine where
  params : List String
  body : List Node

inductive Binding where
  | value (v : Value)
  | routine (r : Routine)

/-- What names stand for: those set in the template, innermost first, and those given to it. -/
structure Scope where
  frames : List (Dict Binding)
  given : Json

namespace Scope

def binding? (s : Scope) (name : String) : Option Binding :=
  match s.frames.findSome? (Dict.get? · name) with
  | some b => some b
  | none => (s.given.get? name).map fun j => .value (some j)

def value (s : Scope) (name : String) : Value :=
  match s.binding? name with
  | some (.value v) => v
  | _ => none

def bind (s : Scope) (name : String) (b : Binding) : Scope :=
  match s.frames with
  | frame :: frames => { s with frames := frame.insert name b :: frames }
  | [] => { s with frames := [[(name, b)]] }

def enter (s : Scope) (frame : Dict Binding) : Scope := { s with frames := frame :: s.frames }

/-- The scope in which a routine runs: its arguments and what is set at top level. -/
def ofCall (s : Scope) (frame : Dict Binding) : Scope :=
  { s with frames := frame :: s.frames.getLast?.toList }

end Scope

abbrev Caller := Scope → Routine → List Value → Except Fault Value

namespace Expr

mutual

def eval (kit : HelperKit) (call : Caller) (scope : Scope) : Expr → Except Fault Value
  | .const j => .ok (some j)
  | .var name => .ok (scope.value name)
  | .attr e name => do
    match ← eval kit call scope e with
    | none => .error .undefinedValue
    | some j => .ok (Value.field j name)
  | .not e => do
    let v ← eval kit call scope e
    .ok (some (.bool (!v.isTrue)))
  | .and a b => do
    let v ← eval kit call scope a
    if v.isTrue then eval kit call scope b else .ok v
  | .or a b => do
    let v ← eval kit call scope a
    if v.isTrue then .ok v else eval kit call scope b
  | .binary op a b => do
    let v ← eval kit call scope a
    let w ← eval kit call scope b
    op.eval v w
  | .filter e name args => do
    let v ← eval kit call scope e
    let vs ← evalAll kit call scope args
    kit.filter name (v :: vs)
  | .call (.var name) args => do
    let vs ← evalAll kit call scope args
    match scope.binding? name with
    | some (.routine r) => call scope r vs
    | some (.value _) => .error (.badOperation "")
    | none => HelperKit.call name vs
  | .call e args => do
    let _ ← eval kit call scope e
    let _ ← evalAll kit call scope args
    .error (.badOperation "")

def evalAll (kit : HelperKit) (call : Caller) (scope : Scope) :
    List Expr → Except Fault (List Value)
  | [] => .ok []
  | e :: es => do
    let v ← eval kit call scope e
    let vs ← evalAll kit call scope es
    .ok (v :: vs)

end

end Expr

namespace Loop

def round (index length : Nat) : Json := .obj [
  ("first", .bool (index == 0)), ("index", .nat (index + 1)), ("index0", .nat index),
  ("last", .bool (index + 1 == length)), ("length", .nat length),
  ("revindex", .nat (length - index)), ("revindex0", .nat (length - index - 1))]

/-- The targets with their values in a round. Several targets take a list of as many values. -/
def targetFrame (targets : List String) (item : Json) : Except Fault (Dict Binding) :=
  match targets, item with
  | [name], j => .ok [(name, .value (some j))]
  | names, .arr js =>
    if names.length == js.length then
      .ok (Dict.ofEntries (names.zip (js.map fun j => Binding.value (some j))))
    else .error (.badOperation "")
  | _, _ => .error (.badOperation "")

def source (v : Value) : Except Fault (List Json) :=
  match v with
  | none => .error .undefinedValue
  | _ =>
    match Value.items? v with
    | some xs => .ok xs
    | none => .error (.badOperation "")

def frames (kit : HelperKit) (call : Caller) (scope : Scope) (targets : List String)
    (condition : Option Expr) (items : List Json) : Except Fault (List (Dict Binding)) := do
  let all ← items.mapM (targetFrame targets)
  match condition with
  | none => .ok all
  | some c => all.filterM fun frame => do
    let v ← c.eval kit call (scope.enter frame)
    .ok v.isTrue

end Loop

namespace Node

mutual

def run (kit : HelperKit) (call : Caller) (scope : Scope) : Node → Except Fault (Scope × String)
  | .text s => .ok (scope, s)
  | .print e => do
    match ← e.eval kit call scope with
    | none => .error .undefinedValue
    | some j => .ok (scope, Value.printed j)
  | .branch condition yes no => do
    let v ← condition.eval kit call scope
    if v.isTrue then runAll kit call scope yes else runAll kit call scope no
  | .loop targets source condition body otherwise => do
    let items ← Loop.source (← source.eval kit call scope)
    let frames ← Loop.frames kit call scope targets condition items
    if frames.isEmpty then
      let (_, out) ← runAll kit call (scope.enter []) otherwise
      .ok (scope, out)
    else
      let out ← frames.zipIdx.foldlM (fun out (frame, index) => do
        let inner := scope.enter (Dict.insert "loop"
          (.value (some (Loop.round index frames.length))) frame)
        let (_, more) ← runAll kit call inner body
        .ok (out ++ more)) ""
      .ok (scope, out)
  | .set name e => do
    let v ← e.eval kit call scope
    .ok (scope.bind name (.value v), "")
  | .capture name body => do
    let (scope, out) ← runAll kit call scope body
    .ok (scope.bind name (.value (some (.str out))), "")
  | .define name params body => .ok (scope.bind name (.routine ⟨params, body⟩), "")

def runAll (kit : HelperKit) (call : Caller) (scope : Scope) :
    List Node → Except Fault (Scope × String)
  | [] => .ok (scope, "")
  | n :: ns => do
    let (scope, out) ← run kit call scope n
    let (scope, more) ← runAll kit call scope ns
    .ok (scope, out ++ more)

end

end Node

namespace Routine

/-- Calls a routine that may call others, nested no deeper than the limit. Missing arguments are
undefined. -/
def callWithin (kit : HelperKit) : Nat → Caller
  | 0, _, _, _ => .error .tooDeep
  | depth + 1, scope, r, args =>
    if r.params.length < args.length then .error .tooManyArguments else do
    let values := args ++ List.replicate (r.params.length - args.length) none
    let frame := Dict.ofEntries (r.params.zip (values.map Binding.value))
    let (_, text) ← Node.runAll kit (callWithin kit depth) (scope.ofCall frame) r.body
    .ok (some (.str text))

end Routine

def callLimit : Nat := 50

def render (kit : HelperKit) (template : Template) (given : Json) : Except Fault String := do
  let (_, text) ← Node.runAll kit (Routine.callWithin kit callLimit) ⟨[[]], given⟩ template
  .ok text

end GoScaffold.Template
