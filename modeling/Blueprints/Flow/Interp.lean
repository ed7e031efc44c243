import Blueprints.Library.Namespace

namespace Blueprints.Flow

open Library

/-- The value bound to a name: locally, by the request, or by the library unless names must be
    bound before use. -/
def lookupName (locals : List (String × Value)) (name : String) : Build Value := do
  match locals.find? (·.1 == name) with
  | some (_, v) => return v
  | none => pure ()
  match <- Build.global? name with
  | some v => return v
  | none => pure ()
  if (<- get).strictNames then throw (.unboundName ("name '" ++ name ++ "' is not defined"))
  match <- globalName? name with
  | some v => return v
  | none => throw (.unboundName ("name '" ++ name ++ "' is not defined"))

/-- Evaluates an expression, to a bounded nesting depth. -/
def evalExpr (r : Runtime) (locals : List (String × Value)) : Nat -> Expr -> Build Value
  | 0, _ => throw .tooDeep
  | n + 1, e =>
    let ev := evalExpr r locals n
    match e with
    | .lit l => pure (match l with
      | .none => .none
      | .bool b => .bool b
      | .int i => .int i
      | .float x => .float x
      | .str s => .str s)
    | .name id => lookupName locals id
    | .attr obj field => do r.attr (<- ev obj) field
    | .call fn args kwargs => do
      let f <- ev fn
      let mut vs : Array Value := #[]
      for a in args do vs := vs.push (<- ev a)
      let mut kws : Array (String × Value) := #[]
      for (k, a) in kwargs do kws := kws.push (k, <- ev a)
      r.call f vs.toList kws.toList
    | .list items => do
      let mut vs : Array Value := #[]
      for a in items do vs := vs.push (<- ev a)
      pure (.list vs.toList)
    | .tuple items => do
      let mut vs : Array Value := #[]
      for a in items do vs := vs.push (<- ev a)
      pure (.tuple vs.toList)
    | .dict entries => do
      let mut es : Array (Value × Value) := #[]
      for (k, v) in entries do
        let kv <- ev k
        let vv <- ev v
        es := if es.any (·.1.equal kv) then es.map (fun (a, b) => if a.equal kv then (a, vv) else (a, b))
          else es.push (kv, vv)
      pure (.dict es.toList)
    | .index obj key => do subscript (<- ev obj) (<- ev key)
    | .binary op a b => do arith op (<- ev a) (<- ev b)
    | .compare op a b => do pure (.bool (<- compareValues op (<- ev a) (<- ev b)))
    | .not a => do pure (.bool !(<- ev a).truthy)
    | .neg a => do
      match <- ev a with
      | .int i => pure (.int (-i))
      | .bool b => pure (.int (if b then -1 else 0))
      | v => throw (.wrongType ("bad operand type for unary -: '" ++ v.typeName ++ "'"))
    | .and a b => do
      let x <- ev a
      if x.truthy then ev b else pure x
    | .or a b => do
      let x <- ev a
      if x.truthy then pure x else ev b
    | .cond t y no => do if (<- ev t).truthy then ev y else ev no
    | .format parts => do
      let mut out := ""
      for p in parts do
        match p with
        | .inl s => out := out ++ s
        | .inr (x, _) => out := out ++ (<- ev x).toText
      pure (.str out)
    | .other kind _ => throw (.unsupported ("unsupported expression " ++ kind))

/-- The nesting depth to which expressions are evaluated. -/
def exprFuel : Nat := 256

def eval (r : Runtime) (locals : List (String × Value)) (e : Expr) : Build Value :=
  evalExpr r locals exprFuel e

end Blueprints.Flow
