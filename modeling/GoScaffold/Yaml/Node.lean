import GoScaffold.Yaml.Token.Lexer

/-! The nodes of a YAML document. -/

namespace GoScaffold.Yaml

/-- A node. A tag is resolved to its full name; `ref` is how an alias refers to a node. -/
inductive Node (ref : Type) where
  | scalar (anchor tag : Option String) (style : Style) (text : String)
  | sequence (anchor tag : Option String) (items : List (Node ref))
  | mapping (anchor tag : Option String) (entries : List (Node ref × Node ref))
  | reference (target : ref)

namespace Node

def missing {ref : Type} : Node ref := scalar none none .plain ""

abbrev Written := Node String

abbrev Handles := List (String × String)

def defaultHandles : Handles := [("!", "!"), ("!!", "tag:yaml.org,2002:")]

structure Properties where
  anchor : Option String := none
  tag : Option (String × String) := none

def readProperties : List Token → Properties × List Token
  | .anchor a :: .tag h s :: rest => ({ anchor := some a, tag := some (h, s) }, rest)
  | .anchor a :: rest => ({ anchor := some a }, rest)
  | .tag h s :: .anchor a :: rest => ({ anchor := some a, tag := some (h, s) }, rest)
  | .tag h s :: rest => ({ tag := some (h, s) }, rest)
  | ts => ({}, ts)

def resolveTag (handles : Handles) : Option (String × String) → Option (Option String)
  | none => some none
  | some (handle, suffix) =>
    if handle.isEmpty then some (some suffix)
    else (List.lookup handle handles).map fun lead => some (lead ++ suffix)

def endsEntry (stops : List Token) (ts : List Token) : Bool :=
  match ts with
  | t :: _ => stops.contains t
  | [] => false

mutual

/-- Reads a node. Only in a block can it be a block; as a value of a block mapping it can be a
sequence without indentation of its own. -/
def read (handles : Handles) (block indentless : Bool) : (fuel : Nat) → List Token →
    Option (Written × List Token)
  | 0, _ => none
  | fuel + 1, ts =>
    match ts with
    | .reference name :: rest => some (reference name, rest)
    | _ => do
      let (props, ts) := readProperties ts
      let tag ← resolveTag handles props.tag
      match ts, block, indentless with
      | .blockEntry :: _, _, true =>
        let (items, rest) ← readIndentless handles fuel [] ts
        return (sequence props.anchor tag items, rest)
      | .scalar style text :: rest, _, _ =>
        -- the tag `!` says no more than no tag
        return (scalar props.anchor (if tag = some "!" then none else tag) style text, rest)
      | .flowSequenceStart :: rest, _, _ =>
        let (items, rest) ← readFlowItems handles fuel true [] rest
        return (sequence props.anchor tag items, rest)
      | .flowMappingStart :: rest, _, _ =>
        let (entries, rest) ← readFlowEntries handles fuel true [] rest
        return (mapping props.anchor tag entries, rest)
      | .blockSequenceStart :: rest, true, _ =>
        let (items, rest) ← readBlockItems handles fuel [] rest
        return (sequence props.anchor tag items, rest)
      | .blockMappingStart :: rest, true, _ =>
        let (entries, rest) ← readBlockEntries handles fuel [] rest
        return (mapping props.anchor tag entries, rest)
      | ts, _, _ =>
        if props.anchor.isSome || tag.isSome then return (scalar props.anchor tag .plain "", ts)
        else none

def readUnless (handles : Handles) (block indentless : Bool) (stops : List Token) : (fuel : Nat) →
    List Token → Option (Written × List Token)
  | 0, _ => none
  | fuel + 1, ts =>
    if endsEntry stops ts then some (missing, ts) else read handles block indentless fuel ts

def readBlockItems (handles : Handles) : (fuel : Nat) → List Written → List Token →
    Option (List Written × List Token)
  | 0, _, _ => none
  | fuel + 1, items, ts =>
    match ts with
    | .blockEntry :: rest => do
      let (item, rest) ← readUnless handles true false [.blockEntry, .blockEnd] fuel rest
      readBlockItems handles fuel (item :: items) rest
    | .blockEnd :: rest => some (items.reverse, rest)
    | _ => none

def readIndentless (handles : Handles) : (fuel : Nat) → List Written → List Token →
    Option (List Written × List Token)
  | 0, _, _ => none
  | fuel + 1, items, ts =>
    match ts with
    | .blockEntry :: rest => do
      let (item, rest) ←
        readUnless handles true false [.blockEntry, .key, .value, .blockEnd] fuel rest
      readIndentless handles fuel (item :: items) rest
    | _ => some (items.reverse, ts)

def readBlockEntries (handles : Handles) : (fuel : Nat) → List (Written × Written) → List Token →
    Option (List (Written × Written) × List Token)
  | 0, _, _ => none
  | fuel + 1, entries, ts =>
    match ts with
    | .blockEnd :: rest => some (entries.reverse, rest)
    | .key :: rest => do
      let (k, rest) ← readUnless handles true true [.key, .value, .blockEnd] fuel rest
      let (v, rest) ← readBlockValue handles fuel rest
      readBlockEntries handles fuel ((k, v) :: entries) rest
    | _ => none

def readBlockValue (handles : Handles) : (fuel : Nat) → List Token → Option (Written × List Token)
  | 0, _ => none
  | fuel + 1, ts =>
    match ts with
    | .value :: rest => readUnless handles true true [.key, .value, .blockEnd] fuel rest
    | _ => some (missing, ts)

/-- Reads the items of a flow sequence. An item with a key is a mapping of one entry. -/
def readFlowItems (handles : Handles) : (fuel : Nat) → (first : Bool) → List Written → List Token →
    Option (List Written × List Token)
  | 0, _, _, _ => none
  | fuel + 1, first, items, ts =>
    match first, ts with
    | _, .flowSequenceEnd :: rest => some (items.reverse, rest)
    | false, .flowEntry :: .flowSequenceEnd :: rest => some (items.reverse, rest)
    | false, .flowEntry :: rest => readFlowItem handles fuel items rest
    | true, ts => readFlowItem handles fuel items ts
    | false, _ => none

def readFlowItem (handles : Handles) : (fuel : Nat) → List Written → List Token →
    Option (List Written × List Token)
  | 0, _, _ => none
  | fuel + 1, items, ts =>
    match ts with
    | .key :: rest => do
      -- a key that is missing takes the token behind it along
      let (k, rest) ←
        if endsEntry [.value, .flowEntry, .flowSequenceEnd] rest then some (missing, rest.drop 1)
        else read handles false false fuel rest
      let (v, rest) ← readFlowValue handles [.flowEntry, .flowSequenceEnd] fuel rest
      readFlowItems handles fuel false (mapping none none [(k, v)] :: items) rest
    | _ => do
      let (item, rest) ← read handles false false fuel ts
      readFlowItems handles fuel false (item :: items) rest

def readFlowValue (handles : Handles) (stops : List Token) : (fuel : Nat) → List Token →
    Option (Written × List Token)
  | 0, _ => none
  | fuel + 1, ts =>
    match ts with
    | .value :: rest => readUnless handles false false stops fuel rest
    | _ => some (missing, ts)

def readFlowEntries (handles : Handles) : (fuel : Nat) → (first : Bool) → List (Written × Written) →
    List Token → Option (List (Written × Written) × List Token)
  | 0, _, _, _ => none
  | fuel + 1, first, entries, ts =>
    match first, ts with
    | _, .flowMappingEnd :: rest => some (entries.reverse, rest)
    | false, .flowEntry :: .flowMappingEnd :: rest => some (entries.reverse, rest)
    | false, .flowEntry :: rest => readFlowEntry handles fuel entries rest
    | true, ts => readFlowEntry handles fuel entries ts
    | false, _ => none

def readFlowEntry (handles : Handles) : (fuel : Nat) → List (Written × Written) → List Token →
    Option (List (Written × Written) × List Token)
  | 0, _, _ => none
  | fuel + 1, entries, ts =>
    match ts with
    | .key :: rest => do
      let (k, rest) ←
        readUnless handles false false [.value, .flowEntry, .flowMappingEnd] fuel rest
      let (v, rest) ← readFlowValue handles [.flowEntry, .flowMappingEnd] fuel rest
      readFlowEntries handles fuel false ((k, v) :: entries) rest
    | _ => do
      let (k, rest) ← read handles false false fuel ts
      readFlowEntries handles fuel false ((k, missing) :: entries) rest

end

/-- Reads the directives in front of a document. Each version must be understood, and given once;
each handle must be declared once. -/
def readDirectives (version : Bool) (handles : Handles) : List Token →
    Option (Handles × List Token)
  | .version major minor :: rest =>
    if version || major ≠ 1 || !(minor = 1 || minor = 2) then none
    else readDirectives true handles rest
  | .tagDirective handle lead :: rest =>
    if (List.lookup handle handles).isSome then none
    else readDirectives version (handles ++ [(handle, lead)]) rest
  | ts => some (handles ++ defaultHandles, ts)

def endsDocument : List Token → Bool
  | [] | .version .. :: _ | .tagDirective .. :: _ | .documentStart :: _ | .documentEnd :: _ => true
  | _ => false

/-- Reads the content of a document and what may follow it: the end of the text, and before it
marks that the document ends. A second document is refused. -/
def readContent (handles : Handles) (implicit : Bool) (ts : List Token) : Option Written := do
  let fuel := 4 * ts.length + 4
  let (node, rest) ←
    if !implicit && endsDocument ts then some (missing, ts) else read handles true false fuel ts
  if (rest.dropWhile (· == .documentEnd)).isEmpty then some node else none

inductive Root where
  | nothing
  | node (n : Written)

def ofTokens? (ts : List Token) : Option Root :=
  match ts with
  | [] => some .nothing
  | .version .. :: _ | .tagDirective .. :: _ | .documentStart :: _ => do
    let (handles, ts) ← readDirectives false [] ts
    match ts with
    | .documentStart :: rest => return .node (← readContent handles false rest)
    | _ => none
  | _ => (readContent defaultHandles true ts).map .node

def parse? (text : String) : Option Root := (Token.scan? text).bind ofTokens?

end Node

end GoScaffold.Yaml
