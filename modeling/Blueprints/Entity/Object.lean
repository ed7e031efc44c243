import Blueprints.Entity.Attr
import Blueprints.Session
import Blueprints.Schema.Validate

namespace Blueprints
open Build

namespace Entity

/-- The class followed by the classes it derives from, depth first, nearest first. -/
def lineage : Entity -> List Entity
  | e@(.mk _ _ _ _ bases) => e :: lineageOf bases
where
  lineageOf : List Entity -> List Entity
    | [] => []
    | b :: bs => lineage b ++ lineageOf bs

/-- An attribute of the class or of the classes it derives from, nearest first. -/
def lookup? (e : Entity) (key : String) : Option Value :=
  e.lineage.findSome? (·.ownAttr? key)

/-- Whether the class has an attribute, itself or through a class it derives from. -/
def hasAttr (e : Entity) (key : String) : Bool := (e.lookup? key).isSome

end Entity

/-- Whether an attribute name is one of the language's own names, written with two underscores
    on each side. -/
def isDunder (name : String) : Bool :=
  name.startsWith "__" && name.endsWith "__" && name.length ≥ 4

/-- The attributes of a kind for the server version of the session. -/
def kindSpecs (k : Kind) : Build (List AttrSpec) := do
  pure (k.attrSpecs (<- get).version)

/-- The attributes of an attribute group for the server version of the session. -/
def shapeSpecs (shape : Schema) : Build (List AttrSpec) := do
  pure (groupSpecs shape (<- get).version)

def Fill.value : Fill -> Value
  | .given j => Value.ofJson j
  | .emptyList => .list []
  | .typeDefault c => match c with
    | .text => .str ""
    | .integer => .int 0
    | .truth => .bool false
    | .mapping => .dict []
    | .group shape => .record shape []
    | .entity _ => .none

/-- The defaults of the attributes that have one, in schema order. -/
def defaultsOf (specs : List AttrSpec) : List (String × Value) :=
  specs.filterMap fun s => s.fill.map fun f => (s.name, f.value)

/-- The text of the type that an attribute check names in messages. -/
def Check.typeText : Check -> String
  | .text => "<class 'str'>"
  | .integer => "<class 'int'>"
  | .truth => "<class 'bool'>"
  | .mapping => "<class 'dict'>"
  | .group _ => "dict"
  | .entity k => "<class 'calm.dsl.builtins.models." ++ k.moduleName ++ "." ++ k.typeName ++ "'>"

/-- Whether a value is a decorated function that becomes an action or a runbook. -/
def Value.isDescriptor : Value -> Bool
  | .function f => f.decorator != .plain
  | _ => false

/-- Whether a value is a provider specification, which reading it from a class checks against
    the class's provider. -/
def Value.isProviderSpec : Value -> Bool
  | .object cls _ => cls == "_ProviderSpec"
  | _ => false

/-- Whether reading a value stored on a class gives something else: a decorated function is
    built into an action or runbook, a provider specification is checked. -/
def Value.isAccessor (v : Value) : Bool := v.isDescriptor || v.isProviderSpec

/-- Whether a value is a class of the given kind, or of a kind that refines it. -/
def Value.isKind (v : Value) (k : Kind) : Bool :=
  match v with
  | .entity e => e.kind.isA k
  | _ => false

/-- Checks one value against a check of the basic types or entity kinds; the value comes back
    with any defaults that a schema check filled in. -/
def checkItem (c : Check) (v : Value) : Build Value := do
  if v.isNone then return v
  let mismatch : Build Value :=
    throw (.wrongType (v.toText ++ " is not of type " ++ c.typeText))
  match c, v with
  | .text, .str _ => pure v
  | .text, _ => mismatch
  | .integer, .int _ | .integer, .bool _ => pure v
  | .integer, _ => mismatch
  | .truth, .bool _ => pure v
  | .truth, _ => mismatch
  | .mapping, .dict _ | .mapping, .record _ _ => pure v
  | .mapping, _ => mismatch
  | .entity k, _ =>
    if v.isKind k then pure v
    else if k == .descriptor && v.isDescriptor then pure v
    else if k == .providerSpec && v.isProviderSpec then pure v
    else
      let schema : Schema := { type := ["object"], properties := some k.propertySchemas }
      match Schema.validate Schema.Entities.table schema v with
      | .ok v' => pure v'
      | .error e => throw (.invalid e)
  | .group _, _ => pure v

/-- Checks a value, or each item of a list, against a check. -/
def checkValue (c : Check) (isArray : Bool) (v : Value) : Build Value := do
  if !isArray then checkItem c v
  else match v with
    | .list items => pure (.list (<- items.mapM (checkItem c)))
    | _ => throw (.wrongType (v.toText ++ " is not of type <class 'list'>"))

/-- The name of a class of kind `k` made under the name `name`: a text that is not empty and not
    reserved, or one made from the kind and a fresh identifier when no name is given. -/
def className (k : Kind) (name : Value) : Build String :=
  match name with
  | .str n =>
    if n.isEmpty then do pure ("_" ++ k.schemaName ++ (<- Build.freshShort))
    else if k != .task && k != .credential && n == k.schemaName then
      exitWith ("'" ++ n ++ "' is a reserved name for this entity")
    else if k != .task && k != .credential && Text.keywords.contains n then
      exitWith ("'" ++ n ++ "' is a reserved python keyword")
    else pure n
  | v =>
    if v.truthy then
      throw (.wrongType ("type.__new__() argument 1 must be str, not " ++ v.typeName))
    else do pure ("_" ++ k.schemaName ++ (<- Build.freshShort))

mutual
/-- Assigns one attribute of a class of kind `owner`, or of an attribute group when `owner` is
    `none`: the value to store, after checks. -/
def assignChecked (fuel : Nat) (owner : Option Kind) (specs : List AttrSpec) (name : String)
    (v0 : Value) : Build Value := do
  match fuel with
  | 0 => throw .tooDeep
  | fuel + 1 =>
  let v <- match owner, name, v0 with
    | some .substrate, "readiness_probe", .dict entries =>
      -- a readiness probe given as a dictionary becomes a probe class
      let attrs := entries.filterMap fun (k, w) => k.str?.map (·, w)
      pure (.entity (<- createClass fuel .readinessProbe .none [] none attrs))
    | _, _, v => pure v
  if isDunder name then return v
  let hasList (n : String) := specs.any (·.name == n)
  let fallback (err : Fault) : Build Value := do
    if hasList "variables" && v.isKind .variable then
      match v with
      | .entity e =>
        let e' <- setChecked fuel e "name" (.str name)
        pure (.entity e')
      | _ => pure v
    else if (hasList "actions" || hasList "runbook") && v.isDescriptor then
      match v with
      | .function f => pure (.function (f.withActionName name))
      | _ => pure v
    else throw err
  match specs.find? (·.name == name) with
  | none => fallback (.wrongType ("Unknown attribute " ++ name ++ " given"))
  | some spec =>
    match spec.check with
    | .group shape =>
      try groupValue fuel shape spec.isArray v
      catch
        | .wrongType m => fallback (.wrongType m)
        | e => throw e
    | c => checkValue c spec.isArray v

/-- Turns a dictionary, or each dictionary of a list, into an attribute group. -/
def groupValue (fuel : Nat) (shape : Schema) (isArray : Bool) (v : Value) : Build Value := do
  match fuel with
  | 0 => throw .tooDeep
  | fuel + 1 =>
  let one (w : Value) : Build Value := do
    let entries? : Option (List (Value × Value)) := match w with
      | .dict entries => some entries
      | .record _ fields => some (fields.map fun (k, x) => (Value.str k, x))
      | _ => none
    match entries? with
    | some entries =>
      let specs <- shapeSpecs shape
      let mut fields : List (String × Value) := []
      for (k, x) in entries do
        let key := k.toText
        let x' <- assignChecked fuel none specs key x
        fields := if fields.any (·.1 == key) then
          fields.map fun (a, b) => if a == key then (a, x') else (a, b)
          else fields ++ [(key, x')]
      pure (.record shape fields)
    | none => throw (.wrongType (w.toText ++ " is not of type dict"))
  if !isArray then
    if v.isNone then pure v else one v
  else match v with
    | .list items => pure (.list (<- items.mapM one))
    | _ => throw (.wrongType (v.toText ++ " is not of type list"))

/-- Sets an attribute of a class after checking it. -/
def setChecked (fuel : Nat) (e : Entity) (name : String) (v : Value) : Build Entity := do
  match fuel with
  | 0 => throw .tooDeep
  | fuel + 1 =>
  let specs <- kindSpecs e.kind
  let v' <- assignChecked fuel (some e.kind) specs name v
  pure (e.setAttr name v')

/-- Makes a class of kind `k`: assigns the attributes in order, names the class, and gives
    every attribute that the class does not inherit its default. -/
def createClass (fuel : Nat) (k : Kind) (name : Value) (bases : List Entity)
    (doc : Option String) (attrs : List (String × Value)) : Build Entity := do
  match fuel with
  | 0 => throw .tooDeep
  | fuel + 1 =>
  let specs <- kindSpecs k
  let mut own : List (String × Value) := []
  for (key, v) in attrs do
    -- a kind without attributes of its own checks nothing when a class is made
    let v' <- (if specs.isEmpty then pure v else assignChecked fuel (some k) specs key v)
    own := if own.any (·.1 == key) then
      own.map fun (a, b) => if a == key then (a, v') else (a, b)
      else own ++ [(key, v')]
  let finalName <- className k name
  let mut cls := Entity.mk k finalName doc own bases
  for (key, d) in defaultsOf specs do
    if !cls.hasAttr key then
      let d' <- assignChecked fuel (some k) specs key d
      cls := cls.setAttr key d'
  pure cls
end

/-- The depth to which making classes may nest. -/
def classFuel : Nat := 64

/-- Makes a class of kind `k`; see `createClass`. -/
def Entity.create (k : Kind) (name : Option String) (bases : List Entity) (doc : Option String)
    (attrs : List (String × Value)) : Build Entity :=
  createClass classFuel k (match name with
    | some n => .str n
    | none => .none) bases doc attrs

/-- Makes a class of kind `k` under a name given as a value: a name that is not a text is
    refused once the attributes have been assigned, and an empty one is replaced. -/
def Entity.createNamed (k : Kind) (name : Value) (bases : List Entity) (doc : Option String)
    (attrs : List (String × Value)) : Build Entity :=
  createClass classFuel k name bases doc attrs

/-- Sets an attribute of a class after checking it. -/
def Entity.set (e : Entity) (name : String) (v : Value) : Build Entity :=
  setChecked classFuel e name v

end Blueprints
