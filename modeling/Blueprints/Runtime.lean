import Blueprints.Session

namespace Blueprints

/-- A compiled dictionary: API names and values, in order. Entity classes inside it are compiled
    when it is written out. -/
abbrev Doc := List (String × Value)

namespace Doc

def field? (d : Doc) (key : String) : Option Value := (d.find? (·.1 == key)).map (·.2)

/-- The value under a key, or the absent value. -/
def field (d : Doc) (key : String) : Value := (d.field? key).getD .none

/-- Sets a key; a key set again keeps its place. -/
def put (d : Doc) (key : String) (v : Value) : Doc :=
  if d.any (·.1 == key) then d.map fun (k, w) => if k == key then (k, v) else (k, w)
  else d ++ [(key, v)]

/-- Sets a key only if it is not there yet. -/
def putNew (d : Doc) (key : String) (v : Value) : Doc :=
  if d.any (·.1 == key) then d else d ++ [(key, v)]

def remove (d : Doc) (key : String) : Doc := d.filter (·.1 != key)

end Doc

/-- The operations that the parts of the evaluator call on one another. -/
structure Runtime where
  call : Value -> List Value -> List (String × Value) -> Build Value
  attr : Value -> String -> Build Value
  compile : List Entity -> Entity -> Build Doc
  encode : Bool -> List Entity -> Value -> Build Json

namespace Runtime

/-- The runtime in which nothing may run any more. -/
def exhausted : Runtime where
  call _ _ _ := throw .tooDeep
  attr _ _ := throw .tooDeep
  compile _ _ := throw .tooDeep
  encode _ _ _ := throw .tooDeep

/-- The runtime built by applying one level of the evaluator `step` `depth` times. -/
def tie (step : Runtime -> Runtime) : Nat -> Runtime
  | 0 => exhausted
  | n + 1 => step (tie step n)

end Runtime

end Blueprints
