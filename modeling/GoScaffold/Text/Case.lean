import GoScaffold.Text.Property.CaseMapping
import GoScaffold.Text.Property.Cased

/-! Case of whole texts. A capital sigma at the end of a word has a lower case of its own, so lower
case looks at the neighbours of each character. -/

namespace GoScaffold.Text

def startsCased (cs : List Char) : Bool :=
  ((cs.dropWhile isCaseIgnorable).head?.map isCased).getD false

/-- Lower case of the characters `cs` that follow `before`, which is listed backwards. -/
def lowerFrom (before : List Char) : List Char → List Char
  | [] => []
  | c :: rest =>
    (if c.toNat = 0x3A3 ∧ startsCased before ∧ ¬ startsCased rest then [Char.ofNat 0x3C2]
      else lowerChar c) ++ lowerFrom (c :: before) rest

def lower (s : String) : String := String.ofList (lowerFrom [] s.toList)

def upper (s : String) : String := String.ofList (s.toList.flatMap upperChar)

def upperFirst (s : String) : String :=
  match s.toList with
  | [] => ""
  | c :: rest => String.ofList (upperChar c ++ rest)

def lowerFirst (s : String) : String :=
  match s.toList with
  | [] => ""
  | c :: rest => String.ofList (lowerChar c ++ rest)

def sameLetters (s t : String) : Bool := s.toList.map Char.toLower == t.toList.map Char.toLower

end GoScaffold.Text
