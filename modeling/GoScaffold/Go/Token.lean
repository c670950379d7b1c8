/-! Lexical elements of Go source. A token remembers whether a line ended right before it, since
the end of a line ends a statement wherever a statement may end. -/

namespace GoScaffold.Go

inductive Token.Kind where
  /-- An identifier or a keyword: which of the two depends on where it stands. -/
  | word
  | literal
  | string
  | mark
deriving DecidableEq, Repr

structure Token where
  kind : Token.Kind
  text : String
  /-- A line ended between the previous token and this one. -/
  afterBreak : Bool
deriving DecidableEq, Repr

structure RowSpan where
  first : Nat
  last : Nat
deriving DecidableEq, Repr

structure Tokens where
  tokens : List Token
  rawRows : List RowSpan

namespace Token

def is (t : Token) (mark : String) : Bool := t.kind == .mark && t.text == mark

/-- The token is this keyword, provided that a keyword can stand here. -/
def isWord (t : Token) (word : String) : Bool := t.kind == .word && t.text == word

end Token

end GoScaffold.Go
