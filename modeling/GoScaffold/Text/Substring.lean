/-! Occurrences of one text in another. -/

namespace GoScaffold.Text

def afterPrefix? : List Char → List Char → Option (List Char)
  | [], cs => some cs
  | _ :: _, [] => none
  | p :: ps, c :: cs => if p = c then afterPrefix? ps cs else none

def startsWith (s p : String) : Bool := (afterPrefix? p.toList s.toList).isSome

def endsWith (s p : String) : Bool := (afterPrefix? p.toList.reverse s.toList.reverse).isSome

def dropPrefix? (s p : String) : Option String :=
  (afterPrefix? p.toList s.toList).map String.ofList

def breakOn (p : List Char) : List Char → Option (List Char × List Char)
  | [] => (afterPrefix? p []).map ([], ·)
  | c :: cs =>
    match afterPrefix? p (c :: cs) with
    | some rest => some ([], rest)
    | none => (breakOn p cs).map fun (before, rest) => (c :: before, rest)

def contains (s p : String) : Bool := (breakOn p.toList s.toList).isSome

def replaceFirst (s p new : String) : String :=
  match breakOn p.toList s.toList with
  | some (before, rest) => String.ofList (before ++ new.toList ++ rest)
  | none => s

/-- Replaces the occurrences of `p` from left to right and without overlap, after passing over the
first `skip` characters, which belong to an occurrence already replaced. -/
def replaceChars (p new : List Char) : (skip : Nat) → List Char → List Char
  | _, [] => []
  | skip + 1, _ :: cs => replaceChars p new skip cs
  | 0, c :: cs =>
    if (afterPrefix? p (c :: cs)).isSome then new ++ replaceChars p new (p.length - 1) cs
    else c :: replaceChars p new 0 cs

def replaceAll (s p new : String) : String :=
  String.ofList (replaceChars p.toList new.toList 0 s.toList)

end GoScaffold.Text
