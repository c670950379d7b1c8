import GoScaffold.Text.Line
import GoScaffold.Text.Property.WordCharacter

/-! Go imports: the packages a piece of code refers to, and import blocks. -/

namespace GoScaffold

def Import.packages : List (String × String) :=
  [("context", "context"), ("fmt", "fmt"), ("http", "net/http"), ("json", "encoding/json"),
    ("slog", "log/slog"), ("sort", "sort"), ("strconv", "strconv"), ("strings", "strings"),
    ("time", "time"), ("uuid", "github.com/google/uuid")]

/-- The import path of a package name. Three names stand for packages of `module` itself. -/
def Import.path? (module name : String) : Option String :=
  if name = "domain" then some (module ++ "/internal/domain")
  else if name = "port" then some (module ++ "/internal/port")
  else if name = "errors" then some (module ++ "/internal/pkg/errors")
  else packages.lookup name

def Import.startsSelector (c : Char) : Bool := c.isAlpha || c == '_'

/-- The qualifiers of the code: a lower case letter at a word boundary, then lower case letters and
digits, a dot, and the start of a selector. `before` is the character in front of the code, and
`skip` characters belong to the qualified name found last. -/
def Import.qualifiersFrom (before : Option Char) : (skip : Nat) → List Char → List (List Char)
  | _, [] => []
  | skip + 1, c :: rest => qualifiersFrom (some c) skip rest
  | 0, c :: rest =>
    let name := c :: rest.takeWhile fun d => d.isLower || d.isDigit
    let found := c.isLower && !(before.map Text.isWordCharacter).getD false &&
      match rest.dropWhile fun d => d.isLower || d.isDigit with
      | '.' :: d :: _ => startsSelector d
      | _ => false
    if found then name :: qualifiersFrom (some c) (name.length + 1) rest
    else qualifiersFrom (some c) 0 rest

def Import.addNew (paths : List String) (path : String) : List String :=
  if paths.contains path then paths else paths ++ [path]

def Import.scan (module code : String) : List String :=
  ((qualifiersFrom none 0 code.toList).filterMap fun name =>
    path? module (String.ofList name)).foldl addNew []

structure Imports where
  std : List String := []
  external : List String := []
deriving DecidableEq

namespace Imports

/-- The path names a host: its first part has a dot. -/
def isExternal (path : String) : Bool :=
  ((Text.splitChars '/' path.toList).headD []).contains '.'

def ofPaths (paths : List String) : Imports :=
  let set := paths.eraseDups.mergeSort
  { std := set.filter (!isExternal ·), external := set.filter isExternal }

def isEmpty (i : Imports) : Bool := i.std.isEmpty && i.external.isEmpty

def contains (i : Imports) (path : String) : Bool := (i.std ++ i.external).contains path

def ofCode (module code : String) (extra : List String) : Imports :=
  ofPaths (Import.scan module code ++ extra)

end Imports

end GoScaffold
