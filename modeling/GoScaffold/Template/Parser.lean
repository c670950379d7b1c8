import GoScaffold.Template.Basic
import GoScaffold.Template.Token.Lexer

/-! Templates from their text. -/

namespace GoScaffold.Template

namespace Parser

def reserved : List String :=
  ["true", "True", "false", "False", "none", "None", "loop", "self", "super"]

def mark (s : String) : List Token → Option (List Token)
  | .mark t :: rest => if t == s then some rest else none
  | _ => none

def word (s : String) : List Token → Option (List Token)
  | .word t :: rest => if t == s then some rest else none
  | _ => none

def target : List Token → Option (String × List Token)
  | .word t :: rest => if reserved.contains t then none else some (t, rest)
  | _ => none

def comparison : List Token → Option (BinaryOp × List Token)
  | .mark "==" :: rest => some (.equal, rest)
  | .mark "!=" :: rest => some (.notEqual, rest)
  | .mark "<" :: rest => some (.less, rest)
  | .mark "<=" :: rest => some (.atMost, rest)
  | .mark ">" :: rest => some (.greater, rest)
  | .mark ">=" :: rest => some (.atLeast, rest)
  | _ => none

def ofWord (s : String) : Expr :=
  if s == "true" || s == "True" then .const (.bool true)
  else if s == "false" || s == "False" then .const (.bool false)
  else if s == "none" || s == "None" then .const .null
  else .var s

abbrev Read := List Token → Option (Expr × List Token)

/-! The functions go from the loosest binding operator to the tightest. One that takes a left
operand reads the operators of its level that follow the operand. -/

mutual

def expr : Nat → Read
  | 0, _ => none
  | fuel + 1, ts => do
    let (a, ts) ← conjunction fuel ts
    disjunctionRest fuel a ts

def disjunctionRest : Nat → Expr → Read
  | 0, _, _ => none
  | fuel + 1, a, ts =>
    match word "or" ts with
    | some ts => do
      let (b, ts) ← conjunction fuel ts
      disjunctionRest fuel (.or a b) ts
    | none => some (a, ts)

def conjunction : Nat → Read
  | 0, _ => none
  | fuel + 1, ts => do
    let (a, ts) ← negation fuel ts
    conjunctionRest fuel a ts

def conjunctionRest : Nat → Expr → Read
  | 0, _, _ => none
  | fuel + 1, a, ts =>
    match word "and" ts with
    | some ts => do
      let (b, ts) ← negation fuel ts
      conjunctionRest fuel (.and a b) ts
    | none => some (a, ts)

def negation : Nat → Read
  | 0, _ => none
  | fuel + 1, ts =>
    match word "not" ts with
    | some ts => do
      let (a, ts) ← negation fuel ts
      pure (.not a, ts)
    | none => do
      let (a, ts) ← sum fuel ts
      comparisonRest fuel a ts

def comparisonRest : Nat → Expr → Read
  | 0, _, _ => none
  | fuel + 1, a, ts =>
    match comparison ts with
    | some (op, ts) => do
      let (b, ts) ← sum fuel ts
      comparisonRest fuel (.binary op a b) ts
    | none => some (a, ts)

def sum : Nat → Read
  | 0, _ => none
  | fuel + 1, ts => do
    let (a, ts) ← chain fuel ts
    sumRest fuel a ts

def sumRest : Nat → Expr → Read
  | 0, _, _ => none
  | fuel + 1, a, ts =>
    match mark "+" ts with
    | some ts => do
      let (b, ts) ← chain fuel ts
      sumRest fuel (.binary .add a b) ts
    | none => some (a, ts)

def chain : Nat → Read
  | 0, _ => none
  | fuel + 1, ts => do
    let (a, ts) ← primary fuel ts
    chainRest fuel a ts

def chainRest : Nat → Expr → Read
  | 0, _, _ => none
  | fuel + 1, a, ts =>
    match mark "~" ts with
    | some ts => do
      let (b, ts) ← primary fuel ts
      chainRest fuel (.binary .concat a b) ts
    | none => some (a, ts)

def primary : Nat → Read
  | 0, _ => none
  | fuel + 1, ts =>
    match ts with
    | .word s :: ts => suffixes fuel (ofWord s) ts
    | .str s :: ts => suffixes fuel (.const (.str s)) ts
    | .int n :: ts => suffixes fuel (.const (.nat n)) ts
    | .float x :: ts => suffixes fuel (.const (.ofFloat x)) ts
    | .mark m :: ts =>
      if m == "(" then do
        let (a, ts) ← expr fuel ts
        let ts ← mark ")" ts
        suffixes fuel a ts
      else none
    | [] => none

def suffixes : Nat → Expr → Read
  | 0, _, _ => none
  | fuel + 1, a, ts =>
    match ts with
    | .mark "." :: .word name :: ts => suffixes fuel (.attr a name) ts
    | .mark "." :: _ => none
    | .mark "(" :: ts => do
      let (args, ts) ← arguments fuel ts
      suffixes fuel (.call a args) ts
    | .mark "|" :: .word name :: .mark "(" :: ts => do
      let (args, ts) ← arguments fuel ts
      suffixes fuel (.filter a name args) ts
    | .mark "|" :: .word name :: ts => suffixes fuel (.filter a name []) ts
    | .mark "|" :: _ => none
    | _ => some (a, ts)

def arguments : Nat → List Token → Option (List Expr × List Token)
  | 0, _ => none
  | fuel + 1, ts =>
    match mark ")" ts with
    | some ts => some ([], ts)
    | none => do
      let (a, ts) ← expr fuel ts
      match mark ")" ts with
      | some ts => pure ([a], ts)
      | none => do
        let ts ← mark "," ts
        let (more, ts) ← arguments fuel ts
        pure (a :: more, ts)

end

/-- More levels of expressions than the tokens can hold. -/
def fuelFor (ts : List Token) : Nat := 12 * ts.length + 12

def leading (ts : List Token) : Option (Expr × List Token) := expr (fuelFor ts) ts

def whole (ts : List Token) : Option Expr :=
  match leading ts with
  | some (e, []) => some e
  | _ => none

def namesUntil (finish : List Token → Option (List Token)) :
    Nat → List Token → Option (List String × List Token)
  | 0, _ => none
  | fuel + 1, ts => do
    let (name, ts) ← target ts
    match finish ts with
    | some ts => pure ([name], ts)
    | none => do
      let ts ← mark "," ts
      let (names, ts) ← namesUntil finish fuel ts
      pure (name :: names, ts)

def endWords : List String := ["elif", "else", "endif", "endfor", "endset", "endmacro"]

/-- A body, the statement that ends it, and the pieces after that. -/
structure Body where
  nodes : List Node
  finish : Option (String × List Token)
  rest : List Piece

def Body.prepend (node : Node) (b : Body) : Body := { b with nodes := node :: b.nodes }

def Body.endsWith (b : Body) (s : String) : Bool :=
  match b.finish with
  | some (t, []) => t == s
  | _ => false

mutual

def body : Nat → List Piece → Option Body
  | 0, _ => none
  | _, [] => some ⟨[], none, []⟩
  | fuel + 1, .text s :: rest => (body fuel rest).map (.prepend (.text s))
  | fuel + 1, .print ts :: rest => do
    let e ← whole ts
    let more ← body fuel rest
    pure (more.prepend (.print e))
  | fuel + 1, .statement ts :: rest =>
    match ts with
    | .word s :: ts =>
      if endWords.contains s then some ⟨[], some (s, ts), rest⟩ else do
      let (node, rest) ← statement fuel s ts rest
      let more ← body fuel rest
      pure (more.prepend node)
    | _ => none

def statement : Nat → String → List Token → List Piece → Option (Node × List Piece)
  | 0, _, _, _ => none
  | fuel + 1, keyword, ts, rest =>
    if keyword == "if" then conditional fuel ts rest
    else if keyword == "for" then do
      let (targets, ts) ← namesUntil (word "in") (ts.length + 1) ts
      let (source, ts) ← leading ts
      let condition ← match ts with
        | [] => pure none
        | _ => do
          let ts ← word "if" ts
          (whole ts).map some
      let b ← body fuel rest
      if b.endsWith "endfor" then
        pure (.loop targets source condition b.nodes [], b.rest)
      else if b.endsWith "else" then do
        let other ← body fuel b.rest
        if other.endsWith "endfor" then
          pure (.loop targets source condition b.nodes other.nodes, other.rest)
        else none
      else none
    else if keyword == "set" then do
      let (name, ts) ← target ts
      match ts with
      | [] => do
        let b ← body fuel rest
        if b.endsWith "endset" then pure (.capture name b.nodes, b.rest) else none
      | _ => do
        let ts ← mark "=" ts
        let e ← whole ts
        pure (.set name e, rest)
    else if keyword == "macro" then do
      let (name, ts) ← target ts
      let ts ← mark "(" ts
      let (params, ts) ← match mark ")" ts with
        | some ts => pure ([], ts)
        | none => namesUntil (mark ")") (ts.length + 1) ts
      if !ts.isEmpty then none else
      let b ← body fuel rest
      if b.endsWith "endmacro" then pure (.define name params b.nodes, b.rest) else none
    else none

def conditional : Nat → List Token → List Piece → Option (Node × List Piece)
  | 0, _, _ => none
  | fuel + 1, ts, rest => do
    let condition ← whole ts
    let yes ← body fuel rest
    match yes.finish with
    | some ("elif", ts) => do
      let (no, rest) ← conditional fuel ts yes.rest
      pure (.branch condition yes.nodes [no], rest)
    | some ("else", []) => do
      let no ← body fuel yes.rest
      if no.endsWith "endif" then pure (.branch condition yes.nodes no.nodes, no.rest) else none
    | some ("endif", []) => pure (.branch condition yes.nodes [], yes.rest)
    | _ => none

end

end Parser

def parse? (text : String) : Option Template := do
  let pieces ← pieces? text
  let b ← Parser.body (4 * pieces.length + 4) pieces
  if b.finish.isNone then pure b.nodes else none

end GoScaffold.Template
