import Orchestrator.Number.Binary64

/-!
The abstract form of templates: literal text, expressions to print, and statements.
-/

namespace Orchestrator

namespace Template

/-- A value that is written out in a template. -/
inductive Literal where
  | none
  | bool (b : Bool)
  | int (n : Int)
  | float (x : Binary64)
  | str (s : String)
  deriving DecidableEq, Repr, Inhabited

inductive UnaryOp where
  | not
  | neg
  deriving DecidableEq, Repr, Inhabited

inductive BinaryOp where
  | or
  | and
  | eq
  | ne
  | lt
  | le
  | gt
  | ge
  | isIn
  | add
  | sub
  | mul
  | div
  | floorDiv
  | rem
  | pow
  | concat
  deriving DecidableEq, Repr, Inhabited

/-- How an argument is passed. -/
inductive Passing where
  | positional
  /-- All elements of a list become arguments. -/
  | spread
  | named (name : String)
  /-- All entries of a map become named arguments. -/
  | spreadNamed
  deriving DecidableEq, Repr, Inhabited

/-- An expression. -/
inductive Expr where
  | literal (value : Literal)
  | var (name : String)
  | unary (op : UnaryOp) (operand : Expr)
  | binary (op : BinaryOp) (left right : Expr)
  | conditional (test whenTrue : Expr) (whenFalse : Option Expr)
  | attr (target : Expr) (name : String)
  | item (target key : Expr)
  | slice (target : Expr) (start stop step : Option Expr)
  | call (callee : Expr) (args : List (Passing × Expr))
  | filter (name : String) (target : Expr) (args : List (Passing × Expr))
  | test (name : String) (target : Expr) (args : List (Passing × Expr))
  | list (items : List Expr)
  | map (entries : List (Expr × Expr))
  /-- The text that a block statement has caught. -/
  | caught
  deriving Repr, Inhabited

/-- What a value is assigned to. -/
inductive Target where
  | name (name : String)
  /-- An attribute of a variable, by the names on the way to it. -/
  | path (base : String) (attrs : List String)
  | list (targets : List Target)
  deriving Repr, Inhabited

/-- The parameters of a macro, the last of them with default values. -/
structure Params where
  names : List String
  defaults : List Expr
  deriving Repr, Inhabited

/-- A statement. -/
inductive Stmt where
  | text (s : String)
  | output (value : Expr)
  | conditional (test : Expr) (whenTrue whenFalse : List Stmt)
  | loop (target : Target) (source : Expr) (filter : Option Expr) (recursive : Bool)
      (body orElse : List Stmt)
  | scope (bindings : List (Target × Expr)) (body : List Stmt)
  | set (target : Target) (value : Expr)
  /-- Assigns the text of a body, through a filter if there is one. -/
  | setBlock (target : Target) (filter : Option Expr) (body : List Stmt)
  | autoescape (mode : Expr) (body : List Stmt)
  | filterBlock (filter : Expr) (body : List Stmt)
  | block (name : String) (body : List Stmt)
  | macroDef (name : String) (params : Params) (body : List Stmt)
  /-- Calls a macro that can call the body back. -/
  | callBlock (call : Expr) (params : Params) (body : List Stmt)
  | run (call : Expr)
  /-- Refers to another template by name; a missing one is passed over if `optional`. -/
  | load (source : Expr) (optional : Bool)
  deriving Repr, Inhabited

end Template

end Orchestrator
