import Blueprints.Value.Text

namespace Blueprints.Library

/-- The parameters of a function of the library. -/
structure Signature where
  qualName : String
  params : List (String × Option Value)
  implicit : Nat := 0
  varArgs : Bool := false
  varKw : Bool := false
  kwOnly : List (String × Option Value) := []
deriving Inhabited

/-- The arguments of a call, bound to parameters. -/
structure Bound where
  values : List (String × Value)
  rest : List Value := []
  extra : List (String × Value) := []
deriving Inhabited

namespace Bound

/-- The value bound to a parameter; an unbound name reads as the absent value. -/
def get (b : Bound) (name : String) : Value :=
  ((b.values.find? (·.1 == name)).map (·.2)).getD .none

def extra? (b : Bound) (name : String) : Option Value :=
  (b.extra.find? (·.1 == name)).map (·.2)

/-- The bound arguments with some values replaced, or added at the end. -/
def update (b : Bound) (vs : List (String × Value)) : Bound :=
  { b with values := vs.foldl (fun acc (k, v) =>
      if acc.any (·.1 == k) then acc.map (fun (k', w) => if k' == k then (k', v) else (k', w))
      else acc ++ [(k, v)]) b.values }

end Bound

/-- Names quoted and joined as messages list them: `'a'`, `'a' and 'b'`, `'a', 'b', and 'c'`. -/
def quotedNames (names : List String) : String :=
  let q := names.map fun n => "'" ++ n ++ "'"
  match q with
  | [] => ""
  | [a] => a
  | [a, b] => a ++ " and " ++ b
  | _ => ", ".intercalate q.dropLast ++ ", and " ++ q.getLast!

namespace Signature

/-- The message for too many positional arguments. -/
def tooManyMessage (sig : Signature) (given : Nat) : String :=
  let total := sig.implicit + sig.params.length
  let defaults := (sig.params.filter (·.2.isSome)).length
  let (count, plural) := if defaults > 0 then
      ("from " ++ toString (total - defaults) ++ " to " ++ toString total, true)
    else (toString total, total != 1)
  sig.qualName ++ "() takes " ++ count ++ " positional argument" ++ (if plural then "s" else "") ++
    " but " ++ toString given ++ (if given == 1 then " was" else " were") ++ " given"

/-- The message for missing arguments of a kind (`positional` or `keyword-only`). -/
def missingMessage (sig : Signature) (kind : String) (names : List String) : String :=
  sig.qualName ++ "() missing " ++ toString names.length ++ " required " ++ kind ++
    " argument" ++ (if names.length == 1 then "" else "s") ++ ": " ++ quotedNames names

/-- Binds the arguments of a call to the parameters. -/
def bind (sig : Signature) (args : List Value) (kwargs : List (String × Value)) :
    Except Fault Bound := do
  let positional := sig.params.zip args
  let mut filled : List (String × Value) := positional.map fun ((n, _), v) => (n, v)
  let rest := args.drop sig.params.length
  let mut extra : List (String × Value) := []
  for (k, v) in kwargs do
    let known := sig.params.any (·.1 == k) || sig.kwOnly.any (·.1 == k)
    if !known then
      if sig.varKw then extra := extra ++ [(k, v)]
      else throw (.wrongType (sig.qualName ++ "() got an unexpected keyword argument '" ++ k ++ "'"))
    else if filled.any (·.1 == k) then
      throw (.wrongType (sig.qualName ++ "() got multiple values for argument '" ++ k ++ "'"))
    else filled := filled ++ [(k, v)]
  if !rest.isEmpty && !sig.varArgs then
    throw (.wrongType (sig.tooManyMessage (sig.implicit + args.length)))
  let missing := (sig.params.filter fun (n, d) => d.isNone && !filled.any (·.1 == n)).map (·.1)
  if !missing.isEmpty then throw (.wrongType (sig.missingMessage "positional" missing))
  let missingKw := (sig.kwOnly.filter fun (n, d) => d.isNone && !filled.any (·.1 == n)).map (·.1)
  if !missingKw.isEmpty then throw (.wrongType (sig.missingMessage "keyword-only" missingKw))
  let values := (sig.params ++ sig.kwOnly).map fun (n, d) =>
    match filled.find? (·.1 == n) with
    | some (_, v) => (n, v)
    | none => (n, d.getD .none)
  pure { values, rest := if sig.varArgs then rest else [], extra }

end Signature

def req (name : String) : String × Option Value := (name, none)

def opt (name : String) (v : Value) : String × Option Value := (name, some v)

end Blueprints.Library
