import Blueprints.Value.Text
import Blueprints.Value.Equality

namespace Blueprints.Schema
open Text

/-- Whether a value has a JSON type of the schema language. -/
def hasType (v : Value) : String -> Bool
  | "object" => match v with
    | .dict _ | .record _ _ => true
    | _ => false
  | "array" => match v with
    | .list _ => true
    | _ => false
  | "string" => match v with
    | .str _ => true
    | _ => false
  | "integer" => match v with
    | .int _ => true
    | .float x => x.toInt?.isSome
    | _ => false
  | "number" => match v with
    | .int _ | .float _ => true
    | _ => false
  | "boolean" => match v with
    | .bool _ => true
    | _ => false
  | "null" => v.isNone
  | _ => false

def typeMessage (v : Value) (types : List String) : String :=
  v.repr ++ " is not of type " ++ ", ".intercalate (types.map quoted)

/-- Whether a value is one of an enumeration. Zero and one are told apart from the truth values,
    which the general equality identifies with them. -/
def inEnum (v : Value) (allowed : List Json) : Bool :=
  let isBool : Value -> Bool := fun | .bool _ => true | _ => false
  let zeroOrOne := match v.numeric? with
    | some (.inl n) => n == 0 || n == 1
    | _ => false
  allowed.any fun j =>
    let w := .ofJson j
    if zeroOrOne then isBool v == isBool w && v.equal w else v.equal w

/-- The number of a value that the `minimum` keyword compares, scaled by `10 ^ 20` for
    decimals. -/
def belowMinimum (v : Value) (m : Int) : Bool :=
  match v with
  | .int n => n < m
  | .float x =>
    let n := x.normalize
    if n.exponent ≥ 0 then n.mantissa * Int.pow 10 n.exponent.toNat < m
    else n.mantissa < m * Int.pow 10 (-n.exponent).toNat
  | _ => false

/-- Adds the defaults of the listed properties that the object lacks, in schema order. -/
def fillDefaults (props : List (String × Schema)) (t : SchemaTable) :
    List (Value × Value) -> List (Value × Value)
  | entries => props.foldl (fun acc (name, s) =>
      match (s.resolve t).default with
      | some d => if acc.any (fun (k, _) => k.equal (.str name)) then acc
        else acc ++ [(.str name, .ofJson d)]
      | none => acc) entries

/-- Checks the property `k` of an object against the schema that lists it, with `chk`, which
    checks a value one level down; a property that no schema lists is a violation. -/
def checkEntry (chk : Schema -> Value -> Value × List String) (props : List (String × Schema))
    (k w : Value) : Value × List String :=
  match k with
  | .str name => match props.find? (fun (p : String × Schema) => p.1 == name) with
    | some (_, s) => chk s w
    | Option.none => (w, ["Additional properties are not allowed : " ++ k.repr])
  | _ => (w, ["Additional properties are not allowed : " ++ k.repr])

/-- Checks an entry of an object: the key stays, and the value is checked. -/
def checkKeyed (chk : Schema -> Value -> Value × List String) (props : List (String × Schema))
    (e : Value × Value) : (Value × Value) × List String :=
  let here := checkEntry chk props e.1 e.2
  ((e.1, here.1), here.2)

/-- Checks each of a list of values with `chk`: what it returns for each, in order, and all the
    violations. -/
def checkEach {α : Type} (chk : α -> α × List String) : List α -> List α × List String
  | [] => ([], [])
  | x :: rest =>
    let here := chk x
    let rest' := checkEach chk rest
    (here.1 :: rest'.1, here.2 ++ rest'.2)

/-- Tries alternatives in order on the value as the earlier ones left it. -/
def checkAnyOf (chk : Schema -> Value -> Value × List String) :
    List Schema -> Value -> List String -> Value × List String
  | [], v, _ => (v, [v.repr ++ " is not valid under any of the given schemas"])
  | alt :: alts, v, seen =>
    let tried := chk alt v
    if tried.2.isEmpty then (tried.1, []) else checkAnyOf chk alts tried.1 (seen ++ tried.2)

/-- The violations of the keywords that only read the value: `type`, `required`, `enum`,
    `maxLength` and `minimum`, in that order. -/
def keywordErrors (s : Schema) (v : Value) : List String :=
  let e1 := if s.type.isEmpty || s.type.any (hasType v) then [] else [typeMessage v s.type]
  let e2 := match s.required, v with
    | some names, .dict entries =>
      names.filterMap fun n =>
        if entries.any (fun (k, _) => k.equal (.str n)) then Option.none
        else some (quoted n ++ " is a required property")
    | _, _ => []
  let e3 := match s.enum with
    | some allowed => if inEnum v allowed then [] else
        [v.repr ++ " is not one of " ++ (Value.list (allowed.map .ofJson)).repr]
    | Option.none => []
  let e4 := match s.maxLength, v with
    | some n, .str str => if str.length > n then [v.repr ++ " is too long"] else []
    | _, _ => []
  let e5 := match s.minimum with
    | some m => if belowMinimum v m then [v.repr ++ " is less than the minimum of " ++ toString m]
      else []
    | Option.none => []
  e1 ++ e2 ++ e3 ++ e4 ++ e5

/-- The `properties` keyword: the missing defaults are added, then each property is checked. -/
def checkProperties (chk : Schema -> Value -> Value × List String) (t : SchemaTable) (s : Schema)
    (v : Value) : Value × List String :=
  match s.properties, v with
  | some props, .dict entries =>
    let r := checkEach (checkKeyed chk props) (fillDefaults props t entries)
    (.dict r.1, r.2)
  | _, v => (v, [])

/-- The `items` keyword: each item of an array is checked. -/
def checkItemsOf (chk : Schema -> Value -> Value × List String) (s : Schema) (v : Value) :
    Value × List String :=
  match s.items, v with
  | some itemSchema, .list items =>
    let r := checkEach (chk itemSchema) items
    (.list r.1, r.2)
  | _, v => (v, [])

def checkAlternatives (chk : Schema -> Value -> Value × List String) (s : Schema) (v : Value) :
    Value × List String :=
  match s.anyOf with
  | some alts => checkAnyOf chk alts v []
  | Option.none => (v, [])

/-- Checks a value against a schema node: the value with defaults filled in, and the
    violations in order. `fuel` bounds the depth of the descent. -/
def check (t : SchemaTable) : Nat -> Schema -> Value -> Value × List String
  | 0, _, v => (v, [])
  | fuel + 1, s0, v =>
    let s := s0.resolve t
    let p := checkProperties (check t fuel) t s v
    let i := checkItemsOf (check t fuel) s p.1
    let a := checkAlternatives (check t fuel) s i.1
    (a.1, keywordErrors s v ++ p.2 ++ i.2 ++ a.2)

/-- Checks a value against a schema: the value with defaults filled in, or the first
    violation. -/
def validate (t : SchemaTable) (s : Schema) (v : Value) : Except String Value :=
  match check t 1000 s v with
  | (v', []) => .ok v'
  | (_, e :: _) => .error e

end Blueprints.Schema
