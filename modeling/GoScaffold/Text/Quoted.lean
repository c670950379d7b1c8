import GoScaffold.Text.Property.Unprintable

/-! Texts in double quotes: the form error messages show, and Go string literals. -/

namespace GoScaffold.Text

def hex (n : Nat) : List Char := Nat.toDigits 16 n

def shownChar (c : Char) : List Char :=
  if c = '"' then ['\\', '"']
  else if c = '\\' then ['\\', '\\']
  else if c = '\n' then ['\\', 'n']
  else if c = '\r' then ['\\', 'r']
  else if c = '\t' then ['\\', 't']
  else if c.toNat = 0 then ['\\', '0']
  else if isUnprintable c then ['\\', 'u', '\x7b'] ++ hex c.toNat ++ ['\x7d']
  else [c]

/-- The text as messages show it: in double quotes, with escapes for what cannot be seen. -/
def shown (s : String) : String :=
  String.ofList ('"' :: s.toList.flatMap shownChar ++ ['"'])

def goChar (c : Char) : List Char :=
  if c = '"' then ['\\', '"']
  else if c = '\\' then ['\\', '\\']
  else if c = '\n' then ['\\', 'n']
  else if c = '\r' then ['\\', 'r']
  else if c = '\t' then ['\\', 't']
  else if c.toNat < 0x10 then ['\\', 'x', '0'] ++ hex c.toNat
  else if c.toNat < 0x20 ∨ c.toNat = 0x7F then ['\\', 'x'] ++ hex c.toNat
  else [c]

def goQuote (s : String) : String :=
  String.ofList ('"' :: s.toList.flatMap goChar ++ ['"'])

end GoScaffold.Text
