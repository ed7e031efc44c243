import Blueprints.Json.Basic

namespace Blueprints

/-- A constant written in the source. -/
inductive Literal where
  | none
  | bool (b : Bool)
  | int (n : Int)
  | float (x : Decimal)
  | str (s : String)
deriving Repr, Inhabited, BEq

/-- Binary operators. -/
inductive BinOp where
  | add | sub | mul | div | floorDiv | mod
deriving Repr, Inhabited, BEq, DecidableEq

/-- Comparison operators. -/
inductive CmpOp where
  | eq | ne | lt | le | gt | ge | isSame | isNot | mem | notMem
deriving Repr, Inhabited, BEq, DecidableEq

/-- An expression. -/
inductive Expr where
  | lit (l : Literal)
  | name (id : String)
  | attr (obj : Expr) (field : String)
  | call (fn : Expr) (args : List Expr) (kwargs : List (String × Expr))
  | list (items : List Expr)
  | tuple (items : List Expr)
  | dict (entries : List (Expr × Expr))
  | index (obj : Expr) (key : Expr)
  | binary (op : BinOp) (lhs rhs : Expr)
  | compare (op : CmpOp) (lhs rhs : Expr)
  | not (e : Expr)
  | neg (e : Expr)
  | and (lhs rhs : Expr)
  | or (lhs rhs : Expr)
  | cond (test yes no : Expr)
  | format (parts : List (Sum String (Expr × String)))
  | other (kind : String) (parts : List Expr)
deriving Repr, Inhabited

/-- A statement. -/
inductive Stmt where
  | expr (e : Expr)
  | assign (targets : List Expr) (value : Expr)
  | withBlock (ctx : Expr) (asName : Option String) (body : List Stmt)
  | ifThen (test : Expr) (body orelse : List Stmt)
  | pass
  | other (kind : String) (exprs : List Expr) (blocks : List (List Stmt))
deriving Repr, Inhabited

/-- A parameter of a function, with the expression of its default value. -/
structure Param where
  name : String
  default : Option Expr
deriving Repr, Inhabited

/-- A function definition. -/
structure FuncDef where
  name : String
  params : List Param
  doc : Option String
  body : List Stmt
deriving Repr, Inhabited

end Blueprints
