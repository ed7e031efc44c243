import Blueprints.Json.Basic

namespace Blueprints

/-- One node of a JSON schema. -/
structure Schema where
  type : List String := []
  typeIsList : Bool := false
  calmType : Option String := none
  displayName : Option String := none
  minVersion : Option String := none
  defaultRequired : Bool := true
  default : Option Json := none
  required : Option (List String) := none
  enum : Option (List Json) := none
  maxLength : Option Nat := none
  minimum : Option Int := none
  properties : Option (List (String × Schema)) := none
  propertiesRef : Option String := none
  items : Option Schema := none
  anyOf : Option (List Schema) := none
  ref : Option String := none
deriving Repr, Inhabited

/-- A table of named schemas, in which references are resolved. -/
structure SchemaTable where
  lookup : String -> Option Schema

namespace Schema

def text : Schema := { type := ["string"] }

def integer : Schema := { type := ["integer"] }

def truth : Schema := { type := ["boolean"] }

/-- A truth value that is false unless set. -/
def flag : Schema := { type := ["boolean"], default := some (.bool false) }

def textOr (d : String) : Schema := { type := ["string"], default := some (.str d) }

def blank : Schema := textOr ""

def textUpTo (n : Nat) : Schema := { text with maxLength := some n }

/-- A text of at most `n` characters that is empty unless set. -/
def blankUpTo (n : Nat) : Schema := { blank with maxLength := some n }

def nullObject : Schema := { type := ["object", "null"], typeIsList := true }

/-- An object that may be null, with these properties, in order. -/
def nullObjectOf (properties : List (String × Schema)) : Schema :=
  { nullObject with properties := some properties }

/-- A reference to an entity, whose kind has the schema `kind`. -/
def reference (kind : Schema) : Schema :=
  nullObjectOf [("uuid", .text), ("kind", kind), ("name", .text), ("type", .text)]

/-- An object with these properties, in order. -/
def object (properties : List (String × Schema)) : Schema :=
  { type := ["object"], properties := some properties }

/-- The schema of an entity: an object that the language holds as `calm`, with these properties,
    in order. -/
def entity (calm : String) (properties : List (String × Schema)) : Schema :=
  { type := ["object"], calmType := some calm, properties := some properties }

/-- An object that the language holds as `object`, null unless set, with these properties. -/
def objectOrNull (properties : List (String × Schema)) : Schema :=
  { entity "object" properties with default := some .null }

/-- A local reference to an entity, called `shown` in the language: its kind and name. -/
def localRef (shown : String) : Schema :=
  { type := ["object"], calmType := some "app_ref", displayName := some shown,
    required := some ["kind"], properties := some [("kind", .text), ("name", .text)] }

/-- An object that the language holds as a plain dictionary. -/
def dict : Schema := { type := ["object"], calmType := some "dict" }

/-- A list whose items have the schema `items`. -/
def arrayOf (items : Schema) : Schema := { type := ["array"], items := some items }

def refTo (name : String) : Schema := { ref := some name }

/-- A list of values of the schema named `name`. -/
def listOf (name : String) : Schema := { type := ["array"], items := some (refTo name) }

/-- A list of values of the schema named `name`, called `shown` in the language. -/
def listAs (shown name : String) : Schema := { listOf name with displayName := some shown }

/-- The node itself, or the named schema that it stands for. -/
def resolve (t : SchemaTable) (s : Schema) : Schema :=
  match s.ref with
  | some n => (t.lookup n).getD s
  | none => s

end Schema

end Blueprints
