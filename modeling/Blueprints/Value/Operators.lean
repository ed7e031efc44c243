import Blueprints.Value.Text
import Blueprints.Session

namespace Blueprints

/-- The item at a position of a sequence, counting from the end for negative positions. -/
def itemAt {α : Type} (items : List α) (i : Int) (what : String) : Build α := do
  let n : Int := items.length
  let j := if i < 0 then i + n else i
  if j < 0 || j ≥ n then throw (.outOfRange (what ++ " index out of range"))
  match items[j.toNat]? with
  | some x => pure x
  | none => throw (.outOfRange (what ++ " index out of range"))

def subscript (obj key : Value) : Build Value := do
  match obj with
  | .list items | .tuple items =>
    let what := match obj with
      | .tuple _ => "tuple"
      | _ => "list"
    match key with
    | .int i => itemAt items i what
    | .bool b => itemAt items (if b then 1 else 0) what
    | k => throw (.wrongType (what ++ " indices must be integers or slices, not " ++ k.typeName))
  | .str s =>
    match key with
    | .int i => do
      let c <- itemAt s.toList i "string"
      pure (.str c.toString)
    | k => throw (.wrongType ("string indices must be integers, not '" ++ k.typeName ++ "'"))
  | .dict entries =>
    match entries.find? (fun (k, _) => k.equal key) with
    | some (_, v) => pure v
    | none => throw (.missingKey key.repr)
  | .record _ fields =>
    match fields.find? (fun (k, _) => key.isText k) with
    | some (_, v) => pure v
    | none => throw (.missingKey key.repr)
  | v => throw v.notSubscriptable

/-- The items that iterating over a value gives: the items of a list or tuple, the characters of
    a text, the keys of a dictionary. -/
def iterate (v : Value) : Build (List Value) :=
  match v with
  | .list items | .tuple items => pure items
  | .str s => pure (s.toList.map fun c => .str c.toString)
  | .dict entries => pure (entries.map (·.1))
  | v => throw (.wrongType ("'" ++ v.typeName ++ "' object is not iterable"))

/-- Whether two values compare with the given operator. -/
def compareValues (op : CmpOp) (a b : Value) : Build Bool := do
  match op with
  | .eq => pure (a.equal b)
  | .ne => pure (!a.equal b)
  | .isSame => pure (a.equal b)
  | .isNot => pure (!a.equal b)
  | .mem => match b with
    | .list xs | .tuple xs => pure (xs.any (·.equal a))
    | .dict es => pure (es.any (·.1.equal a))
    | .str s => match a with
      | .str t => pure ((s.splitOn t).length > 1 || t.isEmpty)
      | _ => throw (.wrongType ("'in <string>' requires string as left operand, not " ++
          a.typeName))
    | v => throw (.wrongType ("argument of type '" ++ v.typeName ++ "' is not iterable"))
  | .notMem => match b with
    | .list xs | .tuple xs => pure (!xs.any (·.equal a))
    | .dict es => pure (!es.any (·.1.equal a))
    | v => throw (.wrongType ("argument of type '" ++ v.typeName ++ "' is not iterable"))
  | _ =>
    match a.numeric?, b.numeric? with
    | some (.inl x), some (.inl y) => pure (match op with
      | .lt => x < y | .le => x ≤ y | .gt => x > y | _ => x ≥ y)
    | _, _ =>
      match a, b with
      | .str x, .str y => pure (match op with
        | .lt => decide (x < y) | .le => decide (x ≤ y) | .gt => decide (y < x) | _ => decide (y ≤ x))
      | _, _ => throw (.wrongType ("'<' not supported between instances of '" ++ a.typeName ++
          "' and '" ++ b.typeName ++ "'"))

/-- The texts of a sequence, or the characters of a text, with a separator between each two; an
    item that is not a text is refused. -/
def joinTexts (sep : String) (items : Value) : Build String := do
  let parts <- match items with
    | .list xs | .tuple xs => pure xs
    | .dict es => pure (es.map (·.1))
    | .str s => pure (s.toList.map fun c => Value.str c.toString)
    | _ => throw (.wrongType "can only join an iterable")
  let mut texts : List String := []
  for (p, i) in parts.zipIdx do
    match p with
    | .str s => texts := texts ++ [s]
    | v => throw (.wrongType ("sequence item " ++ toString i ++ ": expected str instance, " ++
        v.typeName ++ " found"))
  pure (sep.intercalate texts)

/-- The items of a list from `start` to before `stop`, a negative position counting from the
    end, as slices of lists take them. -/
def sliceItems {α : Type} (xs : List α) (start stop : Int) : List α :=
  let n : Int := xs.length
  let place (i : Int) : Nat := (if i < 0 then max (n + i) 0 else min i n).toNat
  let a := place start
  (xs.drop a).take (place stop - a)

/-- The symbol of an arithmetic operator, as messages write it. -/
def BinOp.symbol : BinOp -> String
  | .add => "+" | .sub => "-" | .mul => "*" | .div => "/" | .floorDiv => "//" | .mod => "%"

namespace Decimal

def ofInt (n : Int) : Decimal := ⟨n, 0⟩

/-- The two mantissas of two decimals brought to their common (smaller) exponent. -/
def align (a b : Decimal) : Int × Int × Int :=
  let e := min a.exponent b.exponent
  (a.mantissa * Int.pow 10 (a.exponent - e).toNat, b.mantissa * Int.pow 10 (b.exponent - e).toNat, e)

def add (a b : Decimal) : Decimal :=
  let (x, y, e) := align a b
  (⟨x + y, e⟩ : Decimal).normalize

def sub (a b : Decimal) : Decimal :=
  let (x, y, e) := align a b
  (⟨x - y, e⟩ : Decimal).normalize

def mul (a b : Decimal) : Decimal :=
  (⟨a.mantissa * b.mantissa, a.exponent + b.exponent⟩ : Decimal).normalize

end Decimal

/-- A number as a decimal, if the value is a number. -/
def Value.decimal? : Value -> Option Decimal
  | .bool b => some (.ofInt (if b then 1 else 0))
  | .int n => some (.ofInt n)
  | .float x => some x
  | _ => Option.none

/-- Arithmetic on two values: numbers, with a decimal result when either operand is a decimal,
    repeating a text, and joining texts and lists. -/
def arith (op : BinOp) (a b : Value) : Build Value := do
  let unsupported : Build Value := throw (.wrongType ("unsupported operand type(s) for " ++
    op.symbol ++ ": '" ++ a.typeName ++ "' and '" ++ b.typeName ++ "'"))
  match op, a, b with
  | .add, .str x, .str y => return .str (x ++ y)
  | .add, .list x, .list y => return .list (x ++ y)
  | .add, .tuple x, .tuple y => return .tuple (x ++ y)
  | .add, .str _, v => throw (.wrongType ("can only concatenate str (not \"" ++ v.typeName ++ "\") to str"))
  | .add, .list _, v => throw (.wrongType ("can only concatenate list (not \"" ++ v.typeName ++ "\") to list"))
  | .add, .tuple _, v => throw (.wrongType ("can only concatenate tuple (not \"" ++ v.typeName ++ "\") to tuple"))
  | .mul, .str x, .int n | .mul, .int n, .str x => return .str (String.join (List.replicate n.toNat x))
  | .mul, .list x, .int n | .mul, .int n, .list x => return .list ((List.replicate n.toNat x).flatten)
  | _, _, _ => pure ()
  let isInt (v : Value) : Bool := match v with
    | .int _ | .bool _ => true
    | _ => false
  if isInt a && isInt b then
    let x := match a with | .int n => n | .bool true => 1 | _ => 0
    let y := match b with | .int n => n | .bool true => 1 | _ => 0
    match op with
    | .add => return .int (x + y)
    | .sub => return .int (x - y)
    | .mul => return .int (x * y)
    | .floorDiv =>
      if y == 0 then throw (.zeroDivision "integer division or modulo by zero")
      return .int (x.fdiv y)
    | .mod =>
      if y == 0 then throw (.zeroDivision "integer modulo by zero")
      return .int (x.fmod y)
    | .div => throw (.unsupported "true division")
  match a.decimal?, b.decimal? with
  | some x, some y =>
    match op with
    | .add => pure (.float (x.add y))
    | .sub => pure (.float (x.sub y))
    | .mul => pure (.float (x.mul y))
    | _ => throw (.unsupported "decimal division")
  | _, _ => unsupported

end Blueprints
