import GoScaffold.Dict
import GoScaffold.Text.Line

/-! The order of services by their dependencies. -/

namespace GoScaffold

structure Dependent where
  name : String
  uses : List String
deriving DecidableEq

inductive DependencyFault where
  | unknown (uses : List String)
  /-- Services that can never come after all they use. -/
  | cycle (services : List String)
deriving DecidableEq

def DependencyFault.message : DependencyFault → String
  | .unknown uses => "unknown service dependencies: " ++ Text.join ", " uses
  | .cycle services => "cycle detected among services: " ++ Text.join ", " services

namespace ServiceOrder

/-- The uses of services by each other. A use that is declared twice counts twice. -/
structure Graph where
  /-- For each declared service the number of uses that it waits for. -/
  counts : Dict Nat
  dependents : Dict (List String)
  unknown : List String

def Graph.add (g : Graph) (use : String × String) : Graph :=
  if g.counts.contains use.2 then
    { g with
      counts := g.counts.update use.1 (· + 1)
      dependents := g.dependents.insert use.2 ((g.dependents.get? use.2).getD [] ++ [use.1]) }
  else { g with unknown := g.unknown ++ [use.1 ++ " -> " ++ use.2] }

def Graph.ofServices (services : List Dependent) : Graph :=
  (services.flatMap fun s => s.uses.map (s.name, ·)).foldl Graph.add
    { counts := Dict.ofEntries (services.map fun s => (s.name, 0)), dependents := [],
      unknown := [] }

/-- The uses that services still wait for, and the services that wait for none and are not
placed. -/
structure Pending where
  counts : Dict Nat
  ready : Dict Unit

def Pending.ofCounts (counts : Dict Nat) : Pending where
  counts := counts
  ready := (counts.filter (·.2 == 0)).map fun entry => (entry.1, ())

def Pending.settle (p : Pending) (name : String) : Pending :=
  match p.counts.get? name with
  | none => p
  | some count =>
    { counts := p.counts.insert name (count - 1)
      ready := if count - 1 = 0 then p.ready.insert name () else p.ready }

/-- Places the least service that is ready and settles the uses of it, for the given number of steps
or until no service is ready. Returns the services in the order they were placed, and what is
pending. -/
def drain (dependents : Dict (List String)) : Nat → Pending → List String × Pending
  | 0, p => ([], p)
  | steps + 1, p =>
    match p.ready with
    | [] => ([], p)
    | (name, _) :: ready =>
      let users := (dependents.get? name).getD []
      let rest := drain dependents steps (users.foldl Pending.settle { p with ready })
      (name :: rest.1, rest.2)

def drained (services : List Dependent) : List String × Pending :=
  let graph := Graph.ofServices services
  drain graph.dependents graph.counts.length (.ofCounts graph.counts)

def resolved (services : List Dependent) : List String := (drained services).1

def stuck (services : List Dependent) : List String :=
  Dict.keys ((drained services).2.counts.filter (0 < ·.2))

end ServiceOrder

/-- All services, each after those it uses; services that cannot be placed so come last, in order of
declaration. -/
def serviceOrder (services : List Dependent) : List String :=
  let first := ServiceOrder.resolved services
  first ++ (services.map Dependent.name).eraseDups.filter fun name => !first.contains name

def unknownUses (services : List Dependent) : List String :=
  (ServiceOrder.Graph.ofServices services).unknown.mergeSort

def checkDependencies (services : List Dependent) : Except DependencyFault Unit :=
  let unknown := unknownUses services
  if !unknown.isEmpty then .error (.unknown unknown)
  else
    let stuck := ServiceOrder.stuck services
    if !stuck.isEmpty then .error (.cycle stuck) else .ok ()

end GoScaffold
