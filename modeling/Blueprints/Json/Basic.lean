
namespace Blueprints

/-- A decimal number `mantissa * 10 ^ exponent`, as a JSON text with a fraction or an exponent
    writes it. -/
structure Decimal where
  mantissa : Int
  exponent : Int
deriving DecidableEq, Repr, Inhabited

/-- A JSON value whose objects keep the order of their fields. -/
inductive Json where
  | null
  | bool (b : Bool)
  | int (n : Int)
  | float (x : Decimal)
  | str (s : String)
  | arr (items : List Json)
  | obj (fields : List (String × Json))
deriving Repr, Inhabited

namespace Decimal

/-- Drops trailing zero digits of the mantissa into the exponent, so that equal values have one
    form. -/
def normalize (d : Decimal) : Decimal :=
  if d.mantissa = 0 then ⟨0, 0⟩ else go d.mantissa.natAbs d.exponent (d.mantissa.natAbs + 1)
where
  go (m : Nat) (e : Int) : Nat -> Decimal
    | 0 => ⟨if d.mantissa < 0 then -(m : Int) else m, e⟩
    | fuel + 1 =>
      if m % 10 = 0 ∧ m ≠ 0 then go (m / 10) (e + 1) fuel
      else ⟨if d.mantissa < 0 then -(m : Int) else m, e⟩

/-- The value as an exact integer, when it is one. -/
def toInt? (d : Decimal) : Option Int :=
  let n := d.normalize
  if n.exponent ≥ 0 then some (n.mantissa * Int.pow 10 n.exponent.toNat) else none

end Decimal

namespace Json

mutual
/-- Structural equality of JSON values; fields are compared in order. -/
def beq : Json -> Json -> Bool
  | .null, .null => true
  | .bool a, .bool b => a == b
  | .int a, .int b => a == b
  | .float a, .float b => a.normalize == b.normalize
  | .str a, .str b => a == b
  | .arr as, .arr bs => beqList as bs
  | .obj as, .obj bs => beqFields as bs
  | _, _ => false

def beqList : List Json -> List Json -> Bool
  | [], [] => true
  | a :: as, b :: bs => beq a b && beqList as bs
  | _, _ => false

/-- Structural equality of field lists, names and values in order. -/
def beqFields : List (String × Json) -> List (String × Json) -> Bool
  | [], [] => true
  | (k, a) :: as, (l, b) :: bs => k == l && beq a b && beqFields as bs
  | _, _ => false
end

instance : BEq Json := ⟨beq⟩

/-- The value of the first field named `key`, for an object. -/
def get? (j : Json) (key : String) : Option Json :=
  match j with
  | .obj fields => fields.lookup key
  | _ => none

/-- The value of the field `key`, or `null`. -/
def getD (j : Json) (key : String) (dflt : Json := .null) : Json :=
  (j.get? key).getD dflt

def hasKey (j : Json) (key : String) : Bool :=
  (j.get? key).isSome

/-- Replaces the first field named `key` in place, or appends it at the end. -/
def setField (fields : List (String × Json)) (key : String) (v : Json) : List (String × Json) :=
  match fields with
  | [] => [(key, v)]
  | (k, w) :: rest => if k == key then (k, v) :: rest else (k, w) :: setField rest key v

/-- Sets the field `key` of an object; other values are returned unchanged. -/
def set (j : Json) (key : String) (v : Json) : Json :=
  match j with
  | .obj fields => .obj (setField fields key v)
  | other => other

/-- Removes every field named `key` from an object. -/
def erase (j : Json) (key : String) : Json :=
  match j with
  | .obj fields => .obj (fields.filter (·.1 != key))
  | other => other

/-- The string held by a value, if it is one. -/
def str? : Json -> Option String
  | .str s => some s
  | _ => none

@[simp] theorem get?_obj_cons (k : String) (v : Json) (rest : List (String × Json)) :
    (Json.obj ((k, v) :: rest)).get? k = some v := by
  simp [get?]

end Json

end Blueprints
