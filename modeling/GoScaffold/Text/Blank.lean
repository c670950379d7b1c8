/-! Blank space: the White_Space characters, trimming and splitting at blanks. -/

namespace GoScaffold.Text

/-- The characters with the White_Space property. -/
def isBlank (c : Char) : Bool :=
  let n := c.toNat
  (9 ≤ n && n ≤ 13) || n == 0x20 || n == 0x85 || n == 0xA0 || n == 0x1680 ||
    (0x2000 ≤ n && n ≤ 0x200A) || n == 0x2028 || n == 0x2029 || n == 0x202F || n == 0x205F ||
    n == 0x3000

def trimStartChars (cs : List Char) : List Char := cs.dropWhile isBlank

def trimEndChars (cs : List Char) : List Char := (cs.reverse.dropWhile isBlank).reverse

def trimChars (cs : List Char) : List Char := trimEndChars (trimStartChars cs)

def trim (s : String) : String := String.ofList (trimChars s.toList)

def trimEnd (s : String) : String := String.ofList (trimEndChars s.toList)

def isBlankText (s : String) : Bool := s.toList.all isBlank

/-- The maximal runs of characters that are not in `sep`. -/
def fields (sep : Char → Bool) : List Char → List (List Char)
  | [] => []
  | c :: rest =>
    if sep c then fields sep rest
    else match rest, fields sep rest with
      | d :: _, w :: ws => if sep d then [c] :: w :: ws else (c :: w) :: ws
      | _, ws => [c] :: ws

def words (s : String) : List String := (fields isBlank s.toList).map String.ofList

def stripChar (c : Char) (s : String) : String :=
  String.ofList ((s.toList.dropWhile (· == c)).reverse.dropWhile (· == c)).reverse

end GoScaffold.Text
