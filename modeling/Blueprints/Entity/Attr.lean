import Blueprints.Schema.Entities
import Blueprints.Value.Basic

namespace Blueprints

/-- What the values of an attribute must be. -/
inductive Check where
  | text
  | integer
  | truth
  | mapping
  | group (shape : Schema)
  | entity (k : Kind)
deriving Inhabited

/-- How a missing attribute is filled in. -/
inductive Fill where
  | given (j : Json)
  | emptyList
  | typeDefault (c : Check)
deriving Inhabited

/-- An attribute of an entity kind or attribute group. -/
structure AttrSpec where
  name : String
  apiName : String
  check : Check
  isArray : Bool
  fill : Option Fill
deriving Inhabited

namespace Check

/-- The check of a schema type name, for the names that attribute schemas use. -/
def ofTypeName? (t : String) : Option Check :=
  match t with
  | "string" => some .text
  | "integer" => some .integer
  | "boolean" => some .truth
  | "dict" => some .mapping
  | _ => (Kind.all.find? (·.apiKind == t)).map .entity

end Check

/-- Whether a dotted version is newer than another, comparing numeric parts in order. -/
def versionNewer (v w : String) : Bool :=
  let parts (s : String) : List Nat := (s.splitOn ".").map (·.toNat?.getD 0)
  let rec go : List Nat -> List Nat -> Bool
    | [], _ => false
    | _ :: _, [] => true
    | a :: as, b :: bs => if a == b then go as bs else a > b
  go (parts v) (parts w)

namespace AttrSpec

/-- The check, list flag and fill of a property schema. -/
def ofProperty (t : SchemaTable) (s0 : Schema) : Option (Check × Bool × Fill) :=
  let s := s0.resolve t
  match s.type with
  | ["array"] =>
    match s.items with
    | some item =>
      let item := item.resolve t
      let c? := match item.type with
        | ["object"] => match item.calmType with
          | some "object" => some (Check.group item)
          | some ct => Check.ofTypeName? ct
          | none => none
        | [ty] => Check.ofTypeName? ty
        | _ => none
      c?.map fun c => (c, true, Fill.emptyList)
    | none => none
  | [ty] =>
    let c? := if ty == "object" then
        match s.calmType with
        | some "object" => some (Check.group s)
        | some ct => Check.ofTypeName? ct
        | none => none
      else Check.ofTypeName? ty
    c?.map fun c => (c, false, match s.default with
      | some j => Fill.given j
      | none => Fill.typeDefault c)
  | _ => none

/-- The attributes that a list of property schemas defines, for a server of version
    `version`. -/
def ofProperties (t : SchemaTable) (version : String) (props : List (String × Schema)) :
    List AttrSpec :=
  props.filterMap fun (apiName, s0) =>
    let s := s0.resolve t
    let tooNew := match s.minVersion with
      | some v => versionNewer v version
      | none => false
    if tooNew then none
    else (ofProperty t s).map fun (c, arr, fill) =>
      { name := s.displayName.getD apiName, apiName, check := c, isArray := arr,
        fill := if s.defaultRequired then some fill else none }

end AttrSpec

namespace Kind

def schema (k : Kind) : Schema :=
  (Schema.Entities.table.lookup k.schemaName).getD {}

/-- The property schemas of a kind; kinds whose values are built by hand have none. -/
def propertySchemas (k : Kind) : List (String × Schema) :=
  let s := k.schema
  if s.calmType == some "app_descriptor" || s.calmType == some "app_provider_spec" ||
      s.calmType == some "app_calm_ref" then []
  else s.properties.getD []

/-- The attributes of a kind, for a server of version `version`. -/
def attrSpecs (k : Kind) (version : String) : List AttrSpec :=
  AttrSpec.ofProperties Schema.Entities.table version k.propertySchemas

end Kind

/-- The attributes of an attribute group with the given nested schema. -/
def groupSpecs (shape : Schema) (version : String) : List AttrSpec :=
  AttrSpec.ofProperties Schema.Entities.table version (shape.properties.getD [])

end Blueprints
