import GoScaffold.Text.Blank
import GoScaffold.Text.Case

/-! Names and their spellings. A name is a sequence of words; each spelling joins the words in its
own way. Words consist of ASCII letters and digits, every other character separates them. -/

namespace GoScaffold.Name

def acronymEnd? (c : Char) : List Char → Option (List Char × List Char)
  | d :: e :: _ => if d.isUpper && e.isLower then some ([c], [d, e]) else none
  | _ => none

/-- Upper case letters, as many as there can be, and behind them one that goes on in lower case. -/
def acronym? : List Char → Option (List Char × List Char)
  | [] => none
  | c :: rest =>
    if c.isUpper then
      ((acronym? rest).map fun found => (c :: found.1, found.2)).or (acronymEnd? c rest)
    else none

def hump? : List Char → Option (List Char × List Char)
  | c :: d :: _ => if (c.isLower || c.isDigit) && d.isUpper then some ([c], [d]) else none
  | _ => none

/-- Puts a blank between the two parts of everything that is found. `skip` characters belong to what
was found last. -/
def parted (find : List Char → Option (List Char × List Char)) :
    (skip : Nat) → List Char → List Char
  | _, [] => []
  | skip + 1, _ :: rest => parted find skip rest
  | 0, c :: rest =>
    match find (c :: rest) with
    | some (first, second) =>
      first ++ ' ' :: (second ++ parted find (first.length + second.length - 1) rest)
    | none => c :: parted find 0 rest

def blankOut (c : Char) : Char := if ['_', '-', '.', '/'].contains c then ' ' else c

/-- The words of a name. A name without letters and digits is a word as it stands. -/
def words (s : String) : List String :=
  if s.isEmpty then []
  else
    let spaced := parted hump? 0 (parted acronym? 0 (s.toList.map blankOut))
    match Text.fields (!·.isAlphanum) spaced with
    | [] => [s]
    | ws => ws.map String.ofList

def initialisms : List String :=
  ["ID", "API", "HTTP", "HTTPS", "IP", "JSON", "SQL", "TTL", "UUID", "URI", "URL", "TCP", "UDP",
    "FSM", "DTO", "UI", "IO", "S3", "JWT", "RPC", "AI"]

def capitalize (word : String) : String := Text.upperFirst (Text.lower word)

def exportWord (word : String) : String :=
  let upper := Text.upper word
  if initialisms.contains upper then upper else capitalize word

/-- Names whose exported spelling the words do not give. -/
def irregular : List (String × String) :=
  [("ids", "IDs"), ("apikey", "APIKey"), ("apikeys", "APIKeys")]

def exported (s : String) : String :=
  match irregular.find? fun entry => Text.sameLetters s entry.1 with
  | some entry => entry.2
  | none => String.join ((words s).map exportWord)

def jsonWord (word : String) : String :=
  let lower := Text.lower word
  if lower = "id" then "Id" else capitalize lower

def jsonKey (s : String) : String :=
  match words s with
  | [] => ""
  | first :: rest => String.join (Text.lower first :: rest.map jsonWord)

def column (s : String) : String := Text.lower (exported s)

def documentKey (s : String) : String := if Text.sameLetters s "id" then "_id" else jsonKey s

def snake (s : String) : String :=
  match s.toList with
  | [] => ""
  | c :: rest =>
    String.ofList (c.toLower :: rest.flatMap fun d => if d.isUpper then ['_', d.toLower] else [d])

end GoScaffold.Name
