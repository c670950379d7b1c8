/-! Texts as lists of lines, and texts joined from parts. -/

namespace GoScaffold.Text

def splitChars (sep : Char) : List Char → List (List Char)
  | [] => [[]]
  | c :: rest =>
    if c = sep then [] :: splitChars sep rest
    else match splitChars sep rest with
      | [] => [[c]]
      | w :: ws => (c :: w) :: ws

def split (sep : Char) (s : String) : List String := (splitChars sep s.toList).map String.ofList

def join (sep : String) (parts : List String) : String :=
  String.ofList (List.intercalate sep.toList (parts.map String.toList))

def dropReturn (line : List Char) : List Char :=
  if line.getLast? = some '\r' then line.dropLast else line

/-- The lines of a text. A line feed ends a line, and takes one carriage return before it along;
the text after the last line feed is a line unless it is empty. -/
def lineChars (cs : List Char) : List (List Char) :=
  match (splitChars '\n' cs).reverse with
  | [] => []
  | last :: ended =>
    (ended.map dropReturn).reverse ++ (if last.isEmpty then [] else [last])

def lines (s : String) : List String := (lineChars s.toList).map String.ofList

def unlines (ls : List String) : String := String.join (ls.map (· ++ "\n"))

end GoScaffold.Text
