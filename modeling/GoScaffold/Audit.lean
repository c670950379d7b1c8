import GoScaffold.Model.Service

/-! The audit of services: the methods that nobody implements. -/

namespace GoScaffold

structure MissingMethod where
  service : String
  method : String
  source : String
deriving DecidableEq

namespace MissingMethod

def describe (m : MissingMethod) : String :=
  m.service ++ "." ++ m.method ++ if m.source.isEmpty then "" else " (" ++ m.source ++ ")"

def key (m : MissingMethod) : String := m.service ++ "." ++ m.method ++ "|" ++ m.source

def toJson (m : MissingMethod) : Json := .obj
  [("service", .str m.service), ("method", .str m.method), ("source", .str m.source)]

end MissingMethod

def Model.Method.isImplemented (m : Model.Method) (overrides : List String) : Bool :=
  !m.flow.isEmpty || !Text.isBlankText m.implCode || overrides.contains m.name

/-- The missing methods found so far, each once, in the order in which they were found. -/
structure Audit where
  entries : List MissingMethod := []
  seen : List String := []

namespace Audit

def has (a : Audit) (m : MissingMethod) : Bool := a.seen.contains m.key

/-- Takes an entry in, unless its key was seen, and tells whether it is new. -/
def submit (a : Audit) (m : MissingMethod) : Bool × Audit :=
  if a.has m then (false, a) else (true, { entries := a.entries ++ [m], seen := m.key :: a.seen })

def record (a : Audit) (m : MissingMethod) : Audit := (a.submit m).2

def recordAll (a : Audit) (ms : List MissingMethod) : Audit := ms.foldl record a

def missing (s : Model.Service) (overrides : List String) : List MissingMethod :=
  (s.methods.filter fun m => !m.isImplemented overrides).map fun m =>
    { service := s.name, method := m.name, source := m.source }

def auditService (a : Audit) (s : Model.Service) (overrides : List String) : Audit :=
  a.recordAll (missing s overrides)

def merge (a b : Audit) : Audit := a.recordAll b.entries

def isEmpty (a : Audit) : Bool := a.entries.isEmpty

def report (a : Audit) : String :=
  if a.isEmpty then ""
  else "Missing implementations (" ++ toString a.entries.length ++ "):\n" ++
    String.join (a.entries.map fun m => "  - " ++ m.describe ++ "\n")

end Audit

end GoScaffold
