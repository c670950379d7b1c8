import GoScaffold.Json.Basic
import GoScaffold.Text.Quoted

/-! The text of JSON values: compact, and laid out over lines. -/

namespace GoScaffold.Json

def Number.chars : Number → List Char
  | .int i => (toString i).toList
  | .float x => if x.isFinite then x.toText.toList else "null".toList

def escapeChar (c : Char) : List Char :=
  if c = '"' then ['\\', '"']
  else if c = '\\' then ['\\', '\\']
  else if c = '\n' then ['\\', 'n']
  else if c = '\r' then ['\\', 'r']
  else if c = '\t' then ['\\', 't']
  else if c.toNat = 0x08 then ['\\', 'b']
  else if c.toNat = 0x0C then ['\\', 'f']
  else if c.toNat < 0x10 then ['\\', 'u', '0', '0', '0'] ++ Text.hex c.toNat
  else if c.toNat < 0x20 then ['\\', 'u', '0', '0'] ++ Text.hex c.toNat
  else [c]

def quoteChars (s : String) : List Char := '"' :: (s.toList.flatMap escapeChar ++ ['"'])

mutual

def chars : Json → List Char
  | null => "null".toList
  | bool b => (if b then "true" else "false").toList
  | num n => n.chars
  | str s => quoteChars s
  | arr items => '[' :: itemChars items
  | obj entries => '\x7b' :: entryChars entries

def itemChars : List Json → List Char
  | [] => [']']
  | [j] => chars j ++ [']']
  | j :: rest => chars j ++ ',' :: itemChars rest

def entryChars : List (String × Json) → List Char
  | [] => ['\x7d']
  | [(key, j)] => quoteChars key ++ ':' :: (chars j ++ ['\x7d'])
  | (key, j) :: rest => quoteChars key ++ ':' :: (chars j ++ ',' :: entryChars rest)

end

def compact (j : Json) : String := String.ofList j.chars

def newLine (level : Nat) : List Char := '\n' :: List.replicate (2 * level) ' '

mutual

def layout (level : Nat) : Json → List Char
  | arr [] => ['[', ']']
  | arr (j :: rest) => '[' :: (newLine (level + 1) ++ layoutItems level (j :: rest))
  | obj [] => ['\x7b', '\x7d']
  | obj (e :: rest) => '\x7b' :: (newLine (level + 1) ++ layoutEntries level (e :: rest))
  | null => "null".toList
  | bool b => (if b then "true" else "false").toList
  | num n => n.chars
  | str s => quoteChars s

def layoutItems (level : Nat) : List Json → List Char
  | [] => newLine level ++ [']']
  | [j] => layout (level + 1) j ++ newLine level ++ [']']
  | j :: rest => layout (level + 1) j ++ ',' :: (newLine (level + 1) ++ layoutItems level rest)

def layoutEntries (level : Nat) : List (String × Json) → List Char
  | [] => newLine level ++ ['\x7d']
  | [(key, j)] => quoteChars key ++ [':', ' '] ++ layout (level + 1) j ++ newLine level ++ ['\x7d']
  | (key, j) :: rest =>
    quoteChars key ++ [':', ' '] ++ layout (level + 1) j ++
      ',' :: (newLine (level + 1) ++ layoutEntries level rest)

end

def pretty (j : Json) : String := String.ofList (layout 0 j)

end GoScaffold.Json
