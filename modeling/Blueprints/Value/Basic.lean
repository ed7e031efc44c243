import Blueprints.Schema.Basic
import Blueprints.Entity.Kind
import Blueprints.Syntax

namespace Blueprints

/-- How a decorated function is turned into an entity. -/
inductive Decorator where
  | plain
  | action
  | runbook
deriving Repr, Inhabited, BEq, DecidableEq

mutual
/-- A value of the blueprint language. -/
inductive Value where
  | none
  | bool (b : Bool)
  | int (n : Int)
  | float (x : Decimal)
  | str (s : String)
  | list (items : List Value)
  | tuple (items : List Value)
  | dict (entries : List (Value × Value))
  | entity (e : Entity)
  | record (shape : Schema) (fields : List (String × Value))
  | builtin (path : List String)
  | function (f : Function)
  | status (name : String)
  | object (cls : String) (fields : List (String × Value))
  | bound (recv : Value) (method : String)

/-- An entity class. -/
inductive Entity where
  | mk (kind : Kind) (name : String) (doc : Option String) (attrs : List (String × Value))
    (bases : List Entity)

/-- A decorated function: how it is decorated, its definition, the values of its parameters'
    defaults, and the fields that decorating and reading it set. -/
inductive Function where
  | mk (decorator : Decorator) (defn : FuncDef) (defaults : List (String × Value))
    (fields : List (String × Value))
end

instance : Inhabited Value := ⟨.none⟩

instance : Inhabited Entity := ⟨.mk .service "" none [] []⟩

namespace Entity

def kind : Entity -> Kind | .mk k .. => k

def name : Entity -> String | .mk _ n .. => n

def doc : Entity -> Option String | .mk _ _ d .. => d

/-- The attributes that a class sets itself, in order. -/
def attrs : Entity -> List (String × Value) | .mk _ _ _ a _ => a

/-- The classes that a class derives from. -/
def bases : Entity -> List Entity | .mk _ _ _ _ b => b

/-- The class with its own attributes replaced. -/
def withAttrs (e : Entity) (attrs : List (String × Value)) : Entity :=
  .mk e.kind e.name e.doc attrs e.bases

def withName (e : Entity) (name : String) : Entity :=
  .mk e.kind name e.doc e.attrs e.bases

/-- An attribute that the class sets itself. -/
def ownAttr? (e : Entity) (key : String) : Option Value :=
  (e.attrs.find? (·.1 == key)).map (·.2)

/-- Sets an attribute of the class itself: an attribute already set keeps its place. -/
def setAttr (e : Entity) (key : String) (v : Value) : Entity :=
  if e.attrs.any (·.1 == key) then
    e.withAttrs (e.attrs.map fun (k, w) => if k == key then (k, v) else (k, w))
  else e.withAttrs (e.attrs ++ [(key, v)])

/-- Removes an attribute that the class sets itself. -/
def dropAttr (e : Entity) (key : String) : Entity :=
  e.withAttrs (e.attrs.filter (·.1 != key))

end Entity

namespace Function

/-- How the function is turned into an entity. -/
def decorator : Function -> Decorator | .mk d .. => d

def defn : Function -> FuncDef | .mk _ f .. => f

/-- The values of the defaults of its parameters. -/
def defaults : Function -> List (String × Value) | .mk _ _ d _ => d

/-- The fields that decorating and reading the function set. -/
def fields : Function -> List (String × Value) | .mk _ _ _ fs => fs

def field? (f : Function) (key : String) : Option Value :=
  (f.fields.find? (·.1 == key)).map (·.2)

/-- Sets a field of the function; a field set again keeps its place. -/
def setField (f : Function) (key : String) (v : Value) : Function :=
  let fs := if f.fields.any (·.1 == key) then
      f.fields.map fun (k, w) => if k == key then (k, v) else (k, w)
    else f.fields ++ [(key, v)]
  .mk f.decorator f.defn f.defaults fs

/-- The name under which an entity holds the function as an action. -/
def actionName (f : Function) : String :=
  match f.field? "action_name" with
  | some (.str s) => s
  | _ => f.defn.name

/-- The function under another action name. -/
def withActionName (f : Function) (n : String) : Function :=
  f.setField "action_name" (.str n)

end Function

namespace Value

/-- The value of a JSON document: objects become dictionaries with text keys. -/
def ofJson : Json -> Value
  | .null => .none
  | .bool b => .bool b
  | .int n => .int n
  | .float x => .float x
  | .str s => .str s
  | .arr items => .list (items.attach.map fun ⟨j, _⟩ => ofJson j)
  | .obj fields => .dict (fields.attach.map fun ⟨(k, j), _⟩ => (.str k, ofJson j))
termination_by j => sizeOf j
decreasing_by
  all_goals simp_wf
  · have := List.sizeOf_lt_of_mem ‹_ ∈ items›; omega
  · have := List.sizeOf_lt_of_mem ‹_ ∈ fields›; simp at this; omega

/-- Whether a value counts as true in a condition: the absent value, `False`, zero, and empty
    texts and containers count as false. -/
def truthy : Value -> Bool
  | .none => false
  | .bool b => b
  | .int n => n != 0
  | .float x => x.mantissa != 0
  | .str s => !s.isEmpty
  | .list items | .tuple items => !items.isEmpty
  | .dict entries => !entries.isEmpty
  | .record _ fields => !fields.isEmpty
  | _ => true

/-- The text value, if the value is a text. -/
def str? : Value -> Option String
  | .str s => some s
  | _ => Option.none

/-- The class, if the value is an entity class. -/
def entity? : Value -> Option Entity
  | .entity e => some e
  | _ => Option.none

/-- Whether the value is the absent value. -/
def isNone : Value -> Bool
  | .none => true
  | _ => false

end Value

end Blueprints
