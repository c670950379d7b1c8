import GoScaffold.Error
import GoScaffold.Text.Line
import GoScaffold.Text.Substring

/-! The files that generation reads and writes, as a value. Paths are texts, most of them relative
to one directory; two texts that lead to the same place name the same file. -/

namespace GoScaffold

namespace Path

/-- The path of a name in a directory. A name that begins with a slash stands for itself. -/
def join (dir name : String) : String :=
  if Text.startsWith name "/" || dir.isEmpty then name
  else if Text.endsWith dir "/" then dir ++ name
  else dir ++ "/" ++ name

def parent (path : String) : String :=
  match ((path.toList.reverse.dropWhile (· != '/')).dropWhile (· == '/')).reverse with
  | [] => "."
  | dir => String.ofList dir

/-- Takes one step down, or up when the part says so. The parts passed are in reverse; nothing is
above the root, and steps above the directory are kept. -/
def step (passed : List String) (part : String) : List String :=
  if part.isEmpty || part == "." then passed
  else if part == ".." then
    match passed with
    | [] => [".."]
    | above :: rest =>
      if above == "/" then passed else if above == ".." then ".." :: passed else rest
  else part :: passed

/-- The names to follow. An empty path leads nowhere. -/
def parts? (path : String) : Option (List String) :=
  if path.isEmpty then none
  else
    let start := if Text.startsWith path "/" then ["/"] else []
    some ((Text.split '/' path).foldl step start).reverse

/-- What follows the last dot in the name at the end of a path; a dot that begins the name does not
count. -/
def extension? (path : String) : Option String :=
  match (Text.split '/' path).getLast? with
  | none => none
  | some name =>
    match (Text.split '.' name).reverse with
    | last :: before :: more =>
      if more.isEmpty && before.isEmpty then none else some last
    | _ => none

end Path

inductive FileTree.Entry where
  | directory
  | file (bytes : ByteArray)

structure FileTree where
  entries : List (List String × FileTree.Entry) := []

namespace FileTree

def entry? (t : FileTree) (parts : List String) : Option Entry :=
  if parts.isEmpty then some .directory else t.entries.lookup parts

def put (t : FileTree) (parts : List String) (entry : Entry) : FileTree :=
  { entries := (parts, entry) :: t.entries.filter fun e => e.1 != parts }

def find? (t : FileTree) (path : String) : Option Entry := (Path.parts? path).bind t.entry?

def read? (t : FileTree) (path : String) : Option ByteArray :=
  match t.find? path with
  | some (.file bytes) => some bytes
  | _ => none

def readText? (t : FileTree) (path : String) : Option String :=
  (t.read? path).bind String.fromUTF8?

def isDirectory (t : FileTree) (path : String) : Bool :=
  match t.find? path with
  | some .directory => true
  | _ => false

def has (t : FileTree) (path : String) : Bool := (t.find? path).isSome

/-- Makes the directories on the way, beginning below those already passed. A file in the way
prevents it. -/
def makeWay (t : FileTree) (passed : List String) : List String → Option FileTree
  | [] => some t
  | part :: rest =>
    let here := passed ++ [part]
    match t.entry? here with
    | some (.file _) => none
    | some .directory => makeWay t here rest
    | none => makeWay (t.put here .directory) here rest

def makeDirectory? (t : FileTree) (path : String) : Option FileTree :=
  (Path.parts? path).bind (t.makeWay [])

/-- Writes a file into a directory that is there. A directory is not written over. -/
def writeFile? (t : FileTree) (path : String) (bytes : ByteArray) : Option FileTree := do
  let parts ← Path.parts? path
  match t.entry? parts with
  | some .directory => none
  | _ => some (t.put parts (.file bytes))

def write? (t : FileTree) (path : String) (bytes : ByteArray) : Option FileTree := do
  let t ← t.makeDirectory? (Path.parent path)
  t.writeFile? path bytes

def remove (t : FileTree) (path : String) : FileTree :=
  match Path.parts? path with
  | some parts => { entries := t.entries.filter fun e => !parts.isPrefixOf e.1 }
  | none => t

def files (t : FileTree) : List String :=
  (t.entries.filterMap fun (parts, entry) => match entry with
    | .file _ => some (Text.join "/" parts)
    | .directory => none).mergeSort

/-- The files that this tree holds and another does not hold in the same form. -/
def changes (t before : FileTree) : List (String × ByteArray) :=
  t.entries.filterMap fun (parts, entry) => match entry, before.entry? parts with
    | .file new, some (.file old) =>
      if new.data == old.data then none else some (Text.join "/" parts, new)
    | .file new, _ => some (Text.join "/" parts, new)
    | .directory, _ => none

def ofFiles (files : List (String × ByteArray)) : FileTree :=
  files.foldl (fun t (path, bytes) => (t.write? path bytes).getD t) {}

end FileTree

inductive WriteOutcome where
  | written
  | unchanged
deriving DecidableEq

def FileTree.writeIfChanged (t : FileTree) (path : String) (bytes : ByteArray) :
    Except Error (FileTree × WriteOutcome) :=
  if (t.read? path).any (·.data == bytes.data) then .ok (t, .unchanged)
  else
    let dir := Path.parent path
    match t.makeDirectory? dir with
    | none => .error (.outputDir dir)
    | some t =>
      match t.writeFile? path bytes with
      | none => .error (.write path)
      | some t => .ok (t, .written)

end GoScaffold
