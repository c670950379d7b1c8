/-! Dictionaries with text keys, as association lists sorted by key. -/

namespace GoScaffold

/-- A dictionary: entries with distinct keys in ascending order. -/
abbrev Dict (α : Type) := List (String × α)

namespace Dict

variable {α β : Type}

def get? (d : Dict α) (key : String) : Option α := List.lookup key d

def contains (d : Dict α) (key : String) : Bool := (d.get? key).isSome

def insert (key : String) (value : α) : Dict α → Dict α
  | [] => [(key, value)]
  | (k, v) :: rest =>
    if key = k then (key, value) :: rest
    else if key < k then (key, value) :: (k, v) :: rest
    else (k, v) :: insert key value rest

def update (d : Dict α) (key : String) (f : α → α) : Dict α :=
  match d.get? key with
  | some value => d.insert key (f value)
  | none => d

/-- The dictionary of a list of entries; of two entries with one key the later counts. -/
def ofEntries (entries : List (String × α)) : Dict α :=
  entries.foldl (fun d (k, v) => insert k v d) []

def keys (d : Dict α) : List String := d.map Prod.fst

def erase (d : Dict α) (key : String) : Dict α := d.filter fun entry => entry.1 != key

end Dict

end GoScaffold
