import GoScaffold.Flow.Basic
import GoScaffold.Name
import GoScaffold.Text.Quoted

/-! Go statements of flows. The code stands in a method with named results: `resp`, if the method
has an output, and `err`. A step that lacks an argument it needs has no code. -/

namespace GoScaffold.Flow

inductive Action where
  | check
  | fetch (method : String)
  | store (method : String)
  | assign
  | conditional
  | upsert
  | switch
  | each
  | block
  | filter
  | paginate
  | append
  | sort
  | normalize
  | publish
deriving DecidableEq

/-- The action with a name. A repository action has the method that it calls by default. -/
def Action.ofName? : String → Option Action
  | "logic.Check" => some .check
  | "repo.Get" | "repo.Find" => some (.fetch "FindByID")
  | "repo.GetForUpdate" => some (.fetch "GetByIDForUpdate")
  | "repo.List" => some (.fetch "ListAll")
  | "repo.Save" => some (.store "Save")
  | "repo.Delete" => some (.store "Delete")
  | "mapping.Assign" => some .assign
  | "flow.If" | "if" | "branch" => some .conditional
  | "upsert" => some .upsert
  | "flow.Switch" | "switch" => some .switch
  | "flow.For" => some .each
  | "flow.Block" | "tx.Block" => some .block
  | "list.Filter" => some .filter
  | "list.Paginate" => some .paginate
  | "list.Append" => some .append
  | "list.Sort" => some .sort
  | "str.Normalize" => some .normalize
  | "event.Publish" => some .publish
  | _ => none

def renderable (flow : List Step) : Bool :=
  (visited flow).all fun s => (Action.ofName? s.action).isSome

/-- A part of a line of code. Code is written in the words of the lowering and in texts that steps
give; the service's own fields are parts of their own. -/
inductive CodePart where
  | words (text : String)
  | given (text : String)
  | quoted (text : String)
  | number (n : Int)
  | repo (entity : String)
  | publisher
deriving DecidableEq

namespace CodePart

instance : Coe String CodePart := ⟨words⟩

def render : CodePart → String
  | words text => text
  | given text => text
  | quoted text => Text.goQuote text
  | number n => toString n
  | repo entity => "s." ++ entity ++ "Repo"
  | publisher => "s.publisher"

def givenOr (text other : String) : CodePart := if text.isEmpty then words other else given text

end CodePart

structure CodeLine where
  indent : Nat
  parts : List CodePart
deriving DecidableEq

def CodeLine.render (l : CodeLine) : String :=
  String.ofList (List.replicate l.indent '\t') ++ String.join (l.parts.map CodePart.render) ++ "\n"

abbrev Declared := List String

/-- Code that depends on the indentation and on the names declared before it. -/
abbrev Lowering := (indent : Nat) → Declared → List CodeLine × Declared

namespace Lowering

def none : Lowering := fun _ declared => ([], declared)

def lines (ls : List CodeLine) : Lowering := fun indent declared =>
  (ls.map fun l => { l with indent := indent + l.indent }, declared)

def seq (a b : Lowering) : Lowering := fun indent declared =>
  let (first, declared) := a indent declared
  let (second, declared) := b indent declared
  (first ++ second, declared)

def all (parts : List Lowering) : Lowering := parts.foldr seq none

def nested (a : Lowering) : Lowering := fun indent => a (indent + 1)

def line (parts : List CodePart) : Lowering := lines [⟨0, parts⟩]

/-- Declares a name, and gives the code for a name that is new or known. -/
def declaring (name : String) (code : (isNew : Bool) → Lowering) : Lowering :=
  fun indent declared =>
    if declared.contains name then code false indent declared
    else code true indent (name :: declared)

def needing (texts : List String) (code : Lowering) : Lowering :=
  if texts.any String.isEmpty then none else code

end Lowering

def orElse (text other : String) : String := if text.isEmpty then other else text

def isLiteral (text : String) : Bool :=
  (Binary64.parse? text).isSome || text = "true" || text = "false"

/-- A label of a switch: numbers and truth values stand as they are, other labels are text. -/
def caseLabel (label : String) : CodePart := if isLiteral label then .given label else .quoted label

inductive Branch where
  | steps (isEmpty : Bool) (code : Lowering)
  | cases (branches : List (String × Lowering))
  | value

def returnError (ret : String) (error : List CodePart) : CodeLine :=
  ⟨1, "return " :: ret :: error⟩

/-- A statement that may fail: `head` opens a block that returns the error. -/
def guarded (ret : String) (head : List CodePart) : Lowering :=
  .lines [⟨0, head.concat " \x7b"⟩, returnError ret ["err"], ⟨0, ["\x7d"]⟩]

def ifElse (cond : List CodePart) (thenCode : Lowering) (elseIsEmpty : Bool) (elseCode : Lowering) :
    Lowering :=
  .all <| [.line ("if " :: cond.concat " \x7b"), .nested thenCode] ++
    if elseIsEmpty then [.line ["\x7d"]]
    else [.line ["\x7d else \x7b"], .nested elseCode, .line ["\x7d"]]

def checkCode (ret : String) (s : Step) : Lowering :=
  let cond := s.arg "condition"
  let message := orElse (s.arg "throw") "validation failed"
  .needing [cond] <| .lines
    [⟨0, ["if !(", .given cond, ") \x7b"]⟩,
      returnError ret
        ["errors.New(http.StatusBadRequest, \"Validation Error\", ", .quoted message, ")"],
      ⟨0, ["\x7d"]⟩]

def repoCall (s : Step) (method : String) : List CodePart :=
  let input := s.arg "input"
  let more : List CodePart := if input.isEmpty then [] else [", ", .given input]
  .repo (Name.exported (s.arg "source")) :: "." :: .givenOr (s.arg "method") method :: "(ctx" ::
    more.concat ")"

def fetchCode (ret : String) (s : Step) (method : String) : Lowering :=
  let output := s.arg "output"
  .needing [s.arg "source"] <|
    if output.isEmpty then
      guarded ret ("if _, err := " :: (repoCall s method).concat "; err != nil")
    else .declaring output fun isNew =>
      .seq (.line (.given output :: ", err " :: (if isNew then ":=" else "=") :: " " ::
          repoCall s method))
        (guarded ret ["if err != nil"])

def storeCode (ret : String) (s : Step) (method : String) : Lowering :=
  .needing [s.arg "source"] <|
    guarded ret ("if err := " :: (repoCall s method).concat "; err != nil")

def assignCode (s : Step) : Lowering :=
  let target := s.arg "to"
  let value := s.arg "value"
  let assignment (op : String) : Lowering := .line [.given target, " ", op, " ", .given value]
  .needing [target, value] <|
    if s.boolArg "declare" then
      .declaring target fun isNew => assignment (if isNew then ":=" else "=")
    else assignment "="

def filterCode (s : Step) : Lowering :=
  let source := s.arg "from"
  let cond := s.arg "condition"
  let output := s.arg "output"
  let item := CodePart.givenOr (s.arg "as") "item"
  .needing [source, cond, output] <| .declaring output fun _ => .lines
    [⟨0, [.given output, " := ", .given source, "[:0]"]⟩,
      ⟨0, ["for _, ", item, " := range ", .given source, " \x7b"]⟩,
      ⟨1, ["if ", .given cond, " \x7b"]⟩,
      ⟨2, [.given output, " = append(", .given output, ", ", item, ")"]⟩,
      ⟨1, ["\x7d"]⟩,
      ⟨0, ["\x7d"]⟩]

def paginateCode (s : Step) : Lowering :=
  let input := s.arg "input"
  let offset := s.arg "offset"
  let limit := s.arg "limit"
  let output := s.arg "output"
  let standard := (s.intArg? "defaultLimit").getD 50
  let capped (name : String) : CodeLine :=
    ⟨0, ["if ", name, " > len(", .given input, ") \x7b ", name, " = len(", .given input, ") \x7d"]⟩
  .needing [input, offset, limit, output] <| .declaring output fun _ => .lines
    [⟨0, ["_off := ", .given offset]⟩,
      ⟨0, ["if _off < 0 \x7b _off = 0 \x7d"]⟩,
      ⟨0, ["_lim := ", .given limit]⟩,
      ⟨0, ["if _lim <= 0 \x7b _lim = ", .number standard, " \x7d"]⟩,
      ⟨0, ["_start := _off"]⟩,
      capped "_start",
      ⟨0, ["_end := _start + _lim"]⟩,
      capped "_end",
      ⟨0, [.given output, " := ", .given input, "[_start:_end]"]⟩]

def appendCode (s : Step) : Lowering :=
  let target := s.arg "to"
  let item := s.arg "item"
  .needing [target, item] <|
    .line [.given target, " = append(", .given target, ", ", .given item, ")"]

def sortCode (s : Step) : Lowering :=
  let input := s.arg "input"
  let output := s.arg "output"
  let key := s.arg "by"
  let cmp := if Text.sameLetters (s.arg "order") "desc" then " > " else " < "
  .needing [input, output, key] <| .declaring output fun _ => .lines
    [⟨0, [.given output, " := append(", .given input, "[:0:0], ", .given input, "...)"]⟩,
      ⟨0, ["sort.Slice(", .given output, ", func(i, j int) bool \x7b return ", .given output,
        "[i].", .given key, cmp, .given output, "[j].", .given key, " \x7d)"]⟩]

def normalizeCode (s : Step) : Lowering :=
  let input := s.arg "input"
  let output := s.arg "output"
  .needing [input, output] <| .declaring output fun _ =>
    if Text.sameLetters (s.arg "mode") "trim" then
      .line [.given output, " := strings.TrimSpace(", .given input, ")"]
    else .line [.given output, " := strings.ToLower(strings.TrimSpace(", .given input, "))"]

def publishCode (ret : String) (s : Step) : Lowering :=
  let event := s.arg "event"
  .needing [event] <| guarded ret ["if err := ", .publisher, ".Publish(ctx, ", .quoted event, ", ",
    .givenOr (s.arg "payload") "nil", "); err != nil"]

namespace Branch

def codeAt (branches : List (String × Branch)) (key : String) : Lowering :=
  match List.lookup key branches with
  | some (.steps _ code) => code
  | _ => .none

def isEmptyAt (branches : List (String × Branch)) (key : String) : Bool :=
  match List.lookup key branches with
  | some (.steps isEmpty _) => isEmpty
  | _ => true

def casesAt (branches : List (String × Branch)) (key : String) : List (String × Lowering) :=
  match List.lookup key branches with
  | some (.cases branches) => branches
  | _ => []

end Branch

/-- The code of a step, given the code of its branches by their keys. -/
def stepCode (ret : String) (s : Step) (branches : List (String × Branch)) : Lowering :=
  let choice (cond : List CodePart) (yes no : String) : Lowering :=
    ifElse cond (Branch.codeAt branches yes) (Branch.isEmptyAt branches no)
      (Branch.codeAt branches no)
  match Action.ofName? s.action with
  | none => .none
  | some .check => checkCode ret s
  | some (.fetch method) => fetchCode ret s method
  | some (.store method) => storeCode ret s method
  | some .assign => assignCode s
  | some .conditional =>
    .needing [s.arg "condition"] <|
      choice [.given (s.arg "condition")] Step.thenKey Step.elseKey
  | some .upsert =>
    .needing [s.arg "target"] <|
      choice [.given (s.arg "target"), " == nil"] Step.ifNewKey Step.ifExistsKey
  | some .switch =>
    .needing [s.arg "value"] <| .all <|
      [.line ["switch ", .given (s.arg "value"), " \x7b"]] ++
      (Branch.casesAt branches Step.casesKey).flatMap (fun (label, code) =>
        [.line ["case ", caseLabel label, ":"], .nested code]) ++
      (if Branch.isEmptyAt branches Step.defaultKey then []
        else [.line ["default:"], .nested (Branch.codeAt branches Step.defaultKey)]) ++
      [.line ["\x7d"]]
  | some .each =>
    .needing [s.arg "each"] <| .all
      [.line ["for _, ", .givenOr (s.arg "as") "item", " := range ",
        .given (s.arg "each"), " \x7b"], .nested (Branch.codeAt branches Step.doKey),
        .line ["\x7d"]]
  | some .block => Branch.codeAt branches Step.doKey
  | some .filter => filterCode s
  | some .paginate => paginateCode s
  | some .append => appendCode s
  | some .sort => sortCode s
  | some .normalize => normalizeCode s
  | some .publish => publishCode ret s

mutual

def lowerStep (ret : String) : Step → Lowering
  | ⟨action, params, args⟩ => stepCode ret ⟨action, params, args⟩ (lowerArgs ret args)

def lowerArgs (ret : String) : List (String × StepArg) → List (String × Branch)
  | [] => []
  | (key, arg) :: rest => (key, lowerArg ret arg) :: lowerArgs ret rest

def lowerArg (ret : String) : StepArg → Branch
  | .steps branch => .steps branch.isEmpty (lowerSteps ret branch)
  | .cases branches => .cases (lowerCases ret branches)
  | .value _ => .value

def lowerSteps (ret : String) : List Step → Lowering
  | [] => .none
  | s :: rest => .seq (lowerStep ret s) (lowerSteps ret rest)

def lowerCases (ret : String) : List (String × List Step) → List (String × Lowering)
  | [] => []
  | (label, branch) :: rest => (label, lowerSteps ret branch) :: lowerCases ret rest

end

/-- The lines of a flow. In a method with an output, `resp` is returned along with every error. -/
def code (flow : List Step) (hasOutput : Bool) : List CodeLine :=
  (lowerSteps (if hasOutput then "resp, " else "") flow 0 ["resp", "err"]).1

def render (flow : List Step) (hasOutput : Bool) : String :=
  String.join ((code flow hasOutput).map CodeLine.render)

end GoScaffold.Flow
