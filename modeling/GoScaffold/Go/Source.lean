import GoScaffold.Go.Token.Lexer
import GoScaffold.Go.Grammar

/-! Whole source files: which texts are Go source, which methods they declare, and which of their
rows belong to raw strings. -/

namespace GoScaffold.Go

structure Source where
  methods : List String
  rawRows : List RowSpan

namespace Grammar

def importSpec (ts : List Token) : Option (List Token) :=
  match string ts with
  | some rest => some rest
  | none => (((mark "." ts).orElse fun _ => name ts)).bind string

def importSpecs : Nat → Recogniser
  | 0, _ => none
  | fuel + 1, ts =>
    match mark ")" ts with
    | some rest => some rest
    | none => do
      let ts ← importSpec ts
      let ts ← if sees ")" ts then pure ts else terminator ts
      importSpecs fuel ts

def functionRest (fuel : Nat) (ts : List Token) : Option (List Token) := do
  let ts ← signature fuel .statement ts
  if Place.statement.stops ts || !sees "\x7b" ts then pure ts else block fuel ts

def function (fuel : Nat) (ts : List Token) : Option (List Token) := do
  let ts ← name ts
  match ((mark "[" ts).bind (typeParameters fuel)).bind (functionRest fuel) with
  | some rest => pure rest
  | none => functionRest fuel ts

def method (fuel : Nat) (ts : List Token) : Option (String × List Token) := do
  let ts ← mark "(" ts
  let ts ← parameters fuel ts
  match ts with
  | t :: rest =>
    let after ← operandName (t :: rest)
    let after ← functionRest fuel after
    pure (t.text, after)
  | [] => none

def topLevel (fuel : Nat) : List Token → Option (Option String × List Token)
  | [] => none
  | t :: rest =>
    let plain (r : Option (List Token)) : Option (Option String × List Token) := r.map (none, ·)
    if t.isWord "package" then plain (name rest)
    else if t.isWord "import" then
      match mark "(" rest with
      | some after => plain (importSpecs fuel after)
      | none => plain (importSpec rest)
    else if t.isWord "func" && !sees "(" rest then plain (function fuel rest)
    else if t.isWord "func" then
      match method fuel rest with
      | some (declared, after) => some (some declared, after)
      | none => plain (statement fuel (t :: rest))
    else plain (statement fuel (t :: rest))

def topLevels : Nat → Nat → List String → List Token → Option (List String)
  | _, _, seen, [] => some seen.reverse
  | 0, _, _, _ => none
  | count + 1, fuel, seen, t :: rest =>
    if t.is ";" then topLevels count fuel seen rest else do
    let (declared, ts) ← topLevel fuel (t :: rest)
    let ts ← terminator ts
    topLevels count fuel (declared.toList ++ seen) ts

end Grammar

/-- The nesting of recognisers over a number of tokens is bounded by a multiple of the number. -/
def Grammar.fuelFor (count : Nat) : Nat := 16 * count + 64

def Source.ofText? (text : String) : Option Source := do
  let ⟨tokens, rawRows⟩ ← Tokens.ofText? text
  let methods ← Grammar.topLevels tokens.length (Grammar.fuelFor tokens.length) [] tokens
  pure ⟨methods, rawRows⟩

def Source.methodNames (source : Source) : List String :=
  (source.methods.mergeSort fun a b => !(b < a)).eraseDups

end GoScaffold.Go
