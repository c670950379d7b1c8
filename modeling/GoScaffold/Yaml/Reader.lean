import GoScaffold.Document.Reading
import GoScaffold.Yaml.Node
import GoScaffold.Yaml.Plain

/-! The document that a YAML text denotes: its nodes, with aliases replaced by what they stand
for. -/

namespace GoScaffold.Yaml

/-- The anchors of a document. An anchor gets as its number how many names there are before it, and
a number stands for the node that got it last. -/
structure Anchors where
  numbers : List (String × Nat) := []
  nodes : List (Nat × Node Nat) := []
  /-- How many scalars and aliases, and starts and ends of collections, were passed. -/
  events : Nat := 0

namespace Anchors

def declare (a : Anchors) (anchor : Option String) : Anchors :=
  match anchor with
  | none => a
  | some name =>
    let number := a.numbers.length
    { a with
      numbers := (name, number) :: a.numbers.filter (·.1 != name)
      nodes := (number, .missing) :: a.nodes }

def supply (a before : Anchors) (anchor : Option String) (node : Node Nat) : Anchors :=
  match anchor with
  | none => a
  | some _ =>
    let later := a.nodes.length - before.nodes.length - 1
    { a with
      nodes := a.nodes.take later ++ (before.numbers.length, node) :: a.nodes.drop (later + 1) }

def count (a : Anchors) (n : Nat) : Anchors := { a with events := a.events + n }

end Anchors

mutual

/-- Refers aliases to numbers, and collects the anchors; `none` if an alias is used before its
anchor. -/
def refer (a : Anchors) : Node String → Option (Node Nat × Anchors)
  | .scalar anchor tag style text =>
    let node := Node.scalar anchor tag style text
    some (node, ((a.declare anchor).supply a anchor node).count 1)
  | .reference name => do
    let number ← List.lookup name a.numbers
    return (.reference number, a.count 1)
  | .sequence anchor tag items => do
    let (items, b) ← referItems (a.declare anchor) items
    let node := Node.sequence anchor tag items
    return (node, (b.supply a anchor node).count 2)
  | .mapping anchor tag entries => do
    let (entries, b) ← referEntries (a.declare anchor) entries
    let node := Node.mapping anchor tag entries
    return (node, (b.supply a anchor node).count 2)

def referItems (a : Anchors) : List (Node String) → Option (List (Node Nat) × Anchors)
  | [] => some ([], a)
  | n :: rest => do
    let (n, a) ← refer a n
    let (rest, a) ← referItems a rest
    return (n :: rest, a)

def referEntries (a : Anchors) : List (Node String × Node String) →
    Option (List (Node Nat × Node Nat) × Anchors)
  | [] => some ([], a)
  | (k, v) :: rest => do
    let (k, a) ← refer a k
    let (v, a) ← refer a v
    let (rest, a) ← referEntries a rest
    return ((k, v) :: rest, a)

end

def formOf (tag : Option String) : Form := if isLocal tag then .typed else .strict

def keyText : Document → Option String
  | .scalar s => s.text
  | _ => none

/-- The document of a node. Aliases are followed `jumps` times at most, and no deeper than `fuel`
levels; what lies beyond cannot be read. Gives also the jumps that are left. -/
def expand (nodes : List (Nat × Node Nat)) : (fuel jumps : Nat) → Node Nat → Document × Nat
  | 0, jumps, _ => (.unreadable, jumps)
  | _ + 1, jumps, .scalar _ tag style text => (.scalar (readings tag style text), jumps)
  | fuel + 1, jumps, .reference number =>
    match jumps, List.lookup number nodes with
    | jumps + 1, some node => expand nodes fuel jumps node
    | jumps, _ => (.unreadable, jumps)
  | fuel + 1, jumps, .sequence _ tag items =>
    let (reversed, jumps) := items.foldl (fun (acc : List Document × Nat) item =>
      let (d, jumps) := expand nodes fuel acc.2 item
      (d :: acc.1, jumps)) ([], jumps)
    (.list (formOf tag) reversed.reverse, jumps)
  | fuel + 1, jumps, .mapping _ tag entries =>
    let (reversed, jumps) := entries.foldl (fun (acc : List (Option String × Document) × Nat) e =>
      let (k, jumps) := expand nodes fuel acc.2 e.1
      let (v, jumps) := expand nodes fuel jumps e.2
      ((keyText k, v) :: acc.1, jumps)) ([], jumps)
    (.map (formOf tag) reversed.reverse, jumps)

def maxDepth : Nat := 128

def document? (text : String) : Option Document := do
  match ← Node.parse? text with
  | .nothing => return .empty
  | .node written =>
    let (node, anchors) ← refer {} written
    return (expand anchors.nodes (2 * maxDepth + 4) (100 * anchors.events) node).1

def decode? {α : Type} (reading : Reading α) (text : String) : Option α :=
  (document? text).bind (reading maxDepth)

end GoScaffold.Yaml
