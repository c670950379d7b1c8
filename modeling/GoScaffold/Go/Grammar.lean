import GoScaffold.Go.Token

/-! The grammar of Go source, as recognisers. A recogniser takes the tokens ahead and gives those
after the phrase, or nothing when the phrase does not begin there.

Three rules deserve a word. A line end ends a statement only where the statement may end, so inside
brackets it is a mere blank. A word is a keyword only where the grammar has that keyword, and an
identifier elsewhere. A name followed by an opening brace begins a composite literal, except in the
head of a statement, where the brace opens the statement's block. Beyond the rules for files,
statements may stand at top level, so that fragments are accepted as well. -/

namespace GoScaffold.Go

abbrev Recogniser := List Token → Option (List Token)

structure Place where
  /-- A statement may end here, so a line end matters. -/
  endsStatement : Bool
  /-- A name followed by an opening brace begins a composite literal. -/
  literals : Bool := true
  /-- The word for the type itself may stand in a type assertion. -/
  typeSwitch : Bool := false

namespace Place

def inside : Place := ⟨false, true, false⟩

def statement : Place := ⟨true, true, false⟩

def head : Place := ⟨false, false, false⟩

def switchHead : Place := ⟨false, false, true⟩

/-- The phrase ends here because the statement that it is in does. -/
def stops (place : Place) : List Token → Bool
  | t :: _ => place.endsStatement && t.afterBreak
  | [] => true

end Place

namespace Grammar

def typeWords : List String := ["chan", "func", "interface", "map", "struct"]

def mark (text : String) : Recogniser
  | t :: ts => if t.is text then some ts else none
  | [] => none

def word (text : String) : Recogniser
  | t :: ts => if t.isWord text then some ts else none
  | [] => none

def sees (text : String) : List Token → Bool
  | t :: _ => t.is text
  | [] => false

def seesWord (text : String) : List Token → Bool
  | t :: _ => t.isWord text
  | [] => false

def name : Recogniser
  | t :: ts => if t.kind == .word then some ts else none
  | [] => none

def operandName : Recogniser
  | t :: ts => if t.kind == .word && !typeWords.contains t.text then some ts else none
  | [] => none

def string : Recogniser
  | t :: ts => if t.kind == .string then some ts else none
  | [] => none

def terminator : Recogniser
  | [] => some []
  | t :: ts => if t.is ";" then some ts else if t.afterBreak then some (t :: ts) else none

def binaryMarks : List String :=
  ["*", "/", "%", "<<", ">>", "&", "&^", "+", "-", "|", "^", "==", "!=", "<", "<=", ">", ">=",
    "&&", "||"]

def unaryMarks : List String := ["+", "-", "!", "^", "*", "&", "<-", "~"]

def assignMarks : List String :=
  ["=", "*=", "/=", "%=", "<<=", ">>=", "&=", "&^=", "+=", "-=", "|=", "^="]

def markIn (marks : List String) : Recogniser
  | t :: ts => if t.kind == .mark && marks.contains t.text then some ts else none
  | [] => none

/-- How far the operand read so far can be the type of a composite literal. -/
inductive Operand where
  | plain
  | qualified
  | generic
  | other
deriving DecidableEq

def names : Nat → Recogniser
  | 0, _ => none
  | fuel + 1, ts => do
    let ts ← name ts
    match mark "," ts with
    | some rest => names fuel rest
    | none => pure ts

mutual

def expression : Nat → Place → Recogniser
  | 0, _, _ => none
  | fuel + 1, place, ts => do
    let ts ← unary fuel place ts
    if place.stops ts then pure ts else
    match markIn binaryMarks ts with
    | some rest => expression fuel place rest
    | none => pure ts

def unary : Nat → Place → Recogniser
  | 0, _, _ => none
  | fuel + 1, place, ts =>
    match markIn unaryMarks ts with
    | some rest => unary fuel place rest
    | none => do
      let (kind, ts) ← operand fuel ts
      suffixes fuel place kind ts

def suffixes : Nat → Place → Operand → Recogniser
  | 0, _, _, _ => none
  | fuel + 1, place, kind, ts =>
    if place.stops ts then some ts else
    match ts with
    | t :: rest =>
      if t.is "." then
        match mark "(" rest with
        | some rest =>
          if place.typeSwitch && seesWord "type" rest then do
            let rest ← mark ")" (rest.drop 1)
            suffixes fuel place .other rest
          else do
            let rest ← type fuel .inside rest
            let rest ← mark ")" rest
            suffixes fuel place .other rest
        | none => do
          let rest ← name rest
          suffixes fuel place (if kind == .plain then .qualified else .other) rest
      else if t.is "(" then do
        let rest ← arguments fuel rest
        suffixes fuel place .other rest
      else if t.is "[" then do
        let rest ← index fuel rest
        suffixes fuel place
          (if kind == .plain || kind == .qualified then .generic else .other) rest
      else if t.is "\x7b" && place.literals && kind != .other then do
        let rest ← literalBody fuel rest
        suffixes fuel place .other rest
      else some ts
    | [] => some []

def operand : Nat → List Token → Option (Operand × List Token)
  | 0, _ => none
  | _, [] => none
  | fuel + 1, t :: rest =>
    if t.kind == .literal || t.kind == .string then some (.other, rest)
    else if t.is "(" then
      match (expression fuel .inside rest).bind (mark ")") with
      | some after => some (.other, after)
      | none => do
        let after ← (type fuel .inside rest).bind (mark ")")
        if sees "(" after then pure (.other, after) else none
    else if t.isWord "func" then
      match (signature fuel .inside rest).bind (block fuel) with
      | some after => some (.other, after)
      | none => conversion fuel (t :: rest)
    else if t.isWord "make" || t.isWord "new" then
      match (mark "(" rest).bind (typeArgument fuel) with
      | some after => some (.other, after)
      | none => some (.plain, rest)
    else if t.kind == .word then
      if typeWords.contains t.text then conversion fuel (t :: rest) else some (.plain, rest)
    else if t.is "[" then conversion fuel (t :: rest)
    else none

def conversion : Nat → List Token → Option (Operand × List Token)
  | 0, _ => none
  | fuel + 1, ts => do
    let after ← type fuel .inside ts
    if sees "(" after then pure (.other, after) else
    if seesWord "map" ts || seesWord "struct" ts || sees "[" ts then
      let after ← mark "\x7b" after
      let after ← literalBody fuel after
      pure (.other, after)
    else none

def typeArgument : Nat → Recogniser
  | 0, _ => none
  | fuel + 1, ts => do
    let ts ← type fuel .inside ts
    match mark ")" ts with
    | some rest => pure rest
    | none => do
      let ts ← mark "," ts
      arguments fuel ts

def arguments : Nat → Recogniser
  | 0, _ => none
  | fuel + 1, ts =>
    match mark ")" ts with
    | some rest => some rest
    | none => do
      let ts ← expression fuel .inside ts
      let ts := (mark "..." ts).getD ts
      match mark ")" ts with
      | some rest => pure rest
      | none => do
        let ts ← mark "," ts
        arguments fuel ts

def index : Nat → Recogniser
  | 0, _ => none
  | fuel + 1, ts =>
    match mark ":" ts with
    | some rest => sliceEnd fuel rest
    | none =>
      match expression fuel .inside ts with
      | some rest =>
        match mark "]" rest with
        | some after => some after
        | none =>
          match mark ":" rest with
          | some after => sliceEnd fuel after
          | none => typeList fuel ts
      | none => typeList fuel ts

def sliceEnd : Nat → Recogniser
  | 0, _ => none
  | fuel + 1, ts =>
    match mark "]" ts with
    | some rest => some rest
    | none => do
      let ts ← expression fuel .inside ts
      match mark "]" ts with
      | some rest => pure rest
      | none => do
        let ts ← mark ":" ts
        let ts ← expression fuel .inside ts
        mark "]" ts

def typeList : Nat → Recogniser
  | 0, _ => none
  | fuel + 1, ts => do
    let ts ← typeUnion fuel .inside ts
    match mark "]" ts with
    | some rest => pure rest
    | none => do
      let ts ← mark "," ts
      match mark "]" ts with
      | some rest => pure rest
      | none => typeList fuel ts

def literalBody : Nat → Recogniser
  | 0, _ => none
  | fuel + 1, ts =>
    match mark "\x7d" ts with
    | some rest => some rest
    | none => do
      let ts ← element fuel ts
      let ts ← match mark ":" ts with
        | some rest => element fuel rest
        | none => pure ts
      match mark "\x7d" ts with
      | some rest => pure rest
      | none => do
        let ts ← mark "," ts
        literalBody fuel ts

def element : Nat → Recogniser
  | 0, _ => none
  | fuel + 1, ts =>
    match mark "\x7b" ts with
    | some rest => literalBody fuel rest
    | none => expression fuel .inside ts

def expressions : Nat → Place → Recogniser
  | 0, _, _ => none
  | fuel + 1, place, ts => do
    let ts ← expression fuel place ts
    match mark "," ts with
    | some rest => expressions fuel place rest
    | none => pure ts

def type : Nat → Place → Recogniser
  | 0, _, _ => none
  | _, _, [] => none
  | fuel + 1, place, t :: rest =>
    if t.is "(" then (type fuel .inside rest).bind (mark ")")
    else if t.is "*" || t.is "~" then type fuel place rest
    else if t.is "[" then
      match mark "]" rest with
      | some after => type fuel place after
      | none => do
        let after ← match mark "..." rest with
          | some after => pure after
          | none => expression fuel .inside rest
        let after ← mark "]" after
        type fuel place after
    else if t.is "<-" then do
      let after ← word "chan" rest
      type fuel place after
    else if t.isWord "chan" then type fuel place ((mark "<-" rest).getD rest)
    else if t.isWord "map" then do
      let after ← mark "[" rest
      let after ← type fuel .inside after
      let after ← mark "]" after
      type fuel place after
    else if t.isWord "struct" then do
      let after ← mark "\x7b" rest
      fields fuel after
    else if t.isWord "interface" then do
      let after ← mark "\x7b" rest
      interfaceElements fuel after
    else if t.isWord "func" then signature fuel place rest
    else if t.kind == .word then
      let after :=
        if place.stops rest then rest else ((mark "." rest).bind name).getD rest
      if place.stops after then some after
      else some (((mark "[" after).bind (typeList fuel)).getD after)
    else none

def typeUnion : Nat → Place → Recogniser
  | 0, _, _ => none
  | fuel + 1, place, ts => do
    let ts ← type fuel place ts
    if place.stops ts then pure ts else
    match mark "|" ts with
    | some rest => typeUnion fuel place rest
    | none => pure ts

def signature : Nat → Place → Recogniser
  | 0, _, _ => none
  | fuel + 1, place, ts => do
    let ts ← mark "(" ts
    let ts ← parameters fuel ts
    if place.stops ts then pure ts else
    match mark "(" ts with
    | some rest => parameters fuel rest
    | none => pure ((type fuel place ts).getD ts)

def parameters : Nat → Recogniser
  | 0, _ => none
  | fuel + 1, ts =>
    match mark ")" ts with
    | some rest => some rest
    | none =>
      let ending (ts : List Token) : Option (List Token) :=
        if sees ")" ts || sees "," ts then some ts else none
      let typed (ts : List Token) : Option (List Token) :=
        (type fuel .inside ((mark "..." ts).getD ts)).bind ending
      do
        let ts ← match (operandName ts).bind typed with
          | some rest => pure rest
          | none => typed ts
        match mark ")" ts with
        | some rest => pure rest
        | none => do
          let ts ← mark "," ts
          parameters fuel ts

def fields : Nat → Recogniser
  | 0, _ => none
  | fuel + 1, ts =>
    match mark "\x7d" ts with
    | some rest => some rest
    | none =>
      let ending (ts : List Token) : Option (List Token) :=
        let ts := if Place.statement.stops ts then ts else (string ts).getD ts
        if sees "\x7d" ts then some ts else terminator ts
      let embedded (ts : List Token) : Option (List Token) := do
        let ts := (mark "*" ts).getD ts
        if (operandName ts).isNone then none else (type fuel .statement ts).bind ending
      do
        let ts ← match ((names fuel ts).bind (type fuel .statement)).bind ending with
          | some rest => pure rest
          | none => embedded ts
        fields fuel ts

def interfaceElements : Nat → Recogniser
  | 0, _ => none
  | fuel + 1, ts =>
    match mark "\x7d" ts with
    | some rest => some rest
    | none => do
      let ts ← match (operandName ts).bind (signature fuel .statement) with
        | some rest => pure rest
        | none => typeUnion fuel .statement ts
      let ts ← if sees "\x7d" ts then pure ts else terminator ts
      interfaceElements fuel ts

def block : Nat → Recogniser
  | 0, _ => none
  | fuel + 1, ts => do
    let ts ← mark "\x7b" ts
    let ts ← statements fuel false ts
    mark "\x7d" ts

/-- Statements up to a closing brace or, in a clause, the next clause. -/
def statements : Nat → Bool → Recogniser
  | 0, _, _ => none
  | fuel + 1, inClause, ts =>
    let closes (ts : List Token) : Bool :=
      sees "\x7d" ts || (inClause && (seesWord "case" ts || seesWord "default" ts))
    if closes ts then some ts else
    match mark ";" ts with
    | some rest => statements fuel inClause rest
    | none => do
      let ts ← statement fuel ts
      if closes ts then pure ts else
      let ts ← terminator ts
      statements fuel inClause ts

def statement : Nat → Recogniser
  | 0, _ => none
  | _, [] => none
  | fuel + 1, t :: rest =>
    if t.is "\x7b" then block fuel (t :: rest)
    else if t.kind != .word then (simple fuel .statement (t :: rest)).map (·.2)
    else if t.text == "const" || t.text == "var" || t.text == "type" then
      declaration fuel t.text rest
    else if t.text == "return" then
      if Place.statement.stops rest || sees ";" rest || sees "\x7d" rest then some rest
      else expressions fuel .statement rest
    else if t.text == "go" || t.text == "defer" then expression fuel .statement rest
    else if t.text == "break" || t.text == "continue" then
      if Place.statement.stops rest then some rest else some ((name rest).getD rest)
    else if t.text == "goto" then name rest
    else if t.text == "fallthrough" then some rest
    else if t.text == "if" then conditional fuel rest
    else if t.text == "for" then loop fuel rest
    else if t.text == "switch" then switch fuel rest
    else if t.text == "select" then do
      let ts ← mark "\x7b" rest
      clauses fuel true ts
    else match mark ":" rest with
      | some after =>
        if sees "\x7d" after then some after else statement fuel after
      | none => (simple fuel .statement (t :: rest)).map (·.2)

/-- A simple statement. The flag tells whether it is a lone expression. -/
def simple : Nat → Place → List Token → Option (Bool × List Token)
  | 0, _, _ => none
  | fuel + 1, place, ts => do
    let first ← expression fuel place ts
    let ts ← match mark "," first with
      | some rest => expressions fuel place rest
      | none => pure first
    let lone := ts.length == first.length
    if place.stops ts then (if lone then pure (true, ts) else none) else
    match markIn ["++", "--"] ts with
    | some rest => if lone then pure (false, rest) else none
    | none =>
      match markIn (":=" :: assignMarks) ts with
      | some rest => do
        let ts ← expressions fuel place rest
        pure (false, ts)
      | none =>
        if !lone then none else
        match mark "<-" ts with
        | some rest => do
          let ts ← expression fuel place rest
          pure (false, ts)
        | none => pure (true, ts)

def conditional : Nat → Recogniser
  | 0, _ => none
  | fuel + 1, ts => do
    let (lone, ts) ← simple fuel .head ts
    let ts ← match mark ";" ts with
      | some rest => expression fuel .head rest
      | none => if lone then pure ts else none
    let ts ← block fuel ts
    if Place.statement.stops ts then pure ts else
    match word "else" ts with
    | some rest =>
      match word "if" rest with
      | some after => conditional fuel after
      | none => block fuel rest
    | none => pure ts

def loop : Nat → Recogniser
  | 0, _ => none
  | fuel + 1, ts =>
    if sees "\x7b" ts then block fuel ts
    else if seesWord "range" ts then do
      let ts ← expression fuel .head (ts.drop 1)
      block fuel ts
    else if sees ";" ts then loopClauses fuel (ts.drop 1)
    else
      let range := do
        let ts ← expressions fuel .head ts
        let ts ← markIn [":=", "="] ts
        let ts ← word "range" ts
        let ts ← expression fuel .head ts
        block fuel ts
      match range with
      | some rest => some rest
      | none => do
        let (lone, ts) ← simple fuel .head ts
        match mark ";" ts with
        | some rest => loopClauses fuel rest
        | none => if lone then block fuel ts else none

def loopClauses : Nat → Recogniser
  | 0, _ => none
  | fuel + 1, ts => do
    let ts ← if sees ";" ts then pure ts else expression fuel .head ts
    let ts ← mark ";" ts
    let ts ← if sees "\x7b" ts then pure ts else (simple fuel .head ts).map (·.2)
    block fuel ts

def switch : Nat → Recogniser
  | 0, _ => none
  | fuel + 1, ts => do
    let header (ts : List Token) : Option (List Token) :=
      if sees "\x7b" ts then some ts else (simple fuel .switchHead ts).map (·.2)
    let ts ← header ts
    let ts ← match mark ";" ts with
      | some rest => header rest
      | none => pure ts
    let ts ← mark "\x7b" ts
    clauses fuel false ts

def clauses : Nat → Bool → Recogniser
  | 0, _, _ => none
  | fuel + 1, ofSelect, ts =>
    match mark "\x7d" ts with
    | some rest => some rest
    | none => do
      let ts ← match word "default" ts with
        | some rest => pure rest
        | none => do
          let ts ← word "case" ts
          if ofSelect then (simple fuel .inside ts).map (·.2) else caseItems fuel ts
      let ts ← mark ":" ts
      let ts ← statements fuel true ts
      clauses fuel ofSelect ts

def caseItems : Nat → Recogniser
  | 0, _ => none
  | fuel + 1, ts => do
    let ending (ts : List Token) : Option (List Token) :=
      if sees ":" ts || sees "," ts then some ts else none
    let ts ← match (expression fuel .inside ts).bind ending with
      | some rest => pure rest
      | none => type fuel .inside ts
    match mark "," ts with
    | some rest => caseItems fuel rest
    | none => pure ts

def declaration : Nat → String → Recogniser
  | 0, _, _ => none
  | fuel + 1, keyword, ts =>
    match mark "(" ts with
    | some rest => specifications fuel keyword rest
    | none => specification fuel keyword ts

def specifications : Nat → String → Recogniser
  | 0, _, _ => none
  | fuel + 1, keyword, ts =>
    match mark ")" ts with
    | some rest => some rest
    | none => do
      let ts ← specification fuel keyword ts
      let ts ← if sees ")" ts then pure ts else terminator ts
      specifications fuel keyword ts

def specification : Nat → String → Recogniser
  | 0, _, _ => none
  | fuel + 1, keyword, ts =>
    if keyword == "type" then do
      let ts ← name ts
      let aliasOrType (ts : List Token) : Option (List Token) :=
        type fuel .statement ((mark "=" ts).getD ts)
      match ((mark "[" ts).bind (typeParameters fuel)).bind aliasOrType with
      | some rest => pure rest
      | none => aliasOrType ts
    else do
      let ts ← names fuel ts
      match mark "=" ts with
      | some rest => expressions fuel .statement rest
      | none =>
        if keyword == "const" && (Place.statement.stops ts || sees ";" ts || sees ")" ts) then
          pure ts
        else do
          let ts ← type fuel .statement ts
          if Place.statement.stops ts then (if keyword == "var" then pure ts else none) else
          match mark "=" ts with
          | some rest => expressions fuel .statement rest
          | none => if keyword == "var" then pure ts else none

def typeParameters : Nat → Recogniser
  | 0, _ => none
  | fuel + 1, ts => do
    let ts ← names fuel ts
    let ts ← typeUnion fuel .inside ts
    match mark "]" ts with
    | some rest => pure rest
    | none => do
      let ts ← mark "," ts
      match mark "]" ts with
      | some rest => pure rest
      | none => typeParameters fuel ts

end

end Grammar

end GoScaffold.Go
