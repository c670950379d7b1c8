import GoScaffold.Number.Binary64

/-! What a template text consists of before its statements are put together. -/

namespace GoScaffold.Template

inductive Token where
  | word (s : String)
  | str (s : String)
  | int (n : Nat)
  | float (x : Binary64)
  | mark (s : String)
deriving DecidableEq

inductive Piece where
  | text (s : String)
  | print (tokens : List Token)
  | statement (tokens : List Token)

end GoScaffold.Template
