import GoScaffold.Json.Basic

/-! Templates: text with expressions that are printed, and statements that choose, repeat and name
parts of it. -/

namespace GoScaffold.Template

inductive Fault where
  | undefinedValue
  | unknownFilter (name : String)
  | unknownFunction (name : String)
  | missingArgument
  | tooManyArguments
  /-- An operation is not meant for a value of this kind, or a template gives up. -/
  | badOperation (complaint : String)
  | tooDeep
deriving DecidableEq

inductive BinaryOp where
  | add
  | concat
  | equal
  | notEqual
  | less
  | atMost
  | greater
  | atLeast
deriving DecidableEq

inductive Expr where
  | const (value : Json)
  | var (name : String)
  | attr (of : Expr) (name : String)
  | not (e : Expr)
  | and (a b : Expr)
  | or (a b : Expr)
  | binary (op : BinaryOp) (a b : Expr)
  | filter (of : Expr) (name : String) (args : List Expr)
  | call (callee : Expr) (args : List Expr)

inductive Node where
  | text (s : String)
  | print (e : Expr)
  | branch (condition : Expr) (yes no : List Node)
  /-- The body for every item of the source that meets the condition. With several targets the items
  are taken apart. -/
  | loop (targets : List String) (source : Expr) (condition : Option Expr) (body : List Node)
    (otherwise : List Node)
  | set (name : String) (e : Expr)
  | capture (name : String) (body : List Node)
  | define (name : String) (params : List String) (body : List Node)

end Template

abbrev Template := List Template.Node

end GoScaffold
