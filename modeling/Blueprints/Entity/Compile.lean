import Blueprints.Entity.Object
import Blueprints.Runtime

namespace Blueprints
open Entity

/-- The system actions that a kind defines, by the names of the functions that define them. -/
def Kind.systemActions : Kind -> List (String × String)
  | .service => [("__create__", "action_create"), ("__delete__", "action_delete"),
      ("__start__", "action_start"), ("__stop__", "action_stop"),
      ("__restart__", "action_restart"), ("__soft_delete__", "action_soft_delete")]
  | .package | .vmDiskPackage =>
    [("__install__", "action_install"), ("__uninstall__", "action_uninstall")]
  | _ => []

/-- The fragment actions that a kind defines, by the names of the functions that define them. -/
def Kind.fragmentActions : Kind -> List (String × String)
  | .substrate => [("__pre_create__", "pre_action_create"), ("__post_delete__", "post_action_delete")]
  | _ => []

/-- The entity types that the display-name map records. -/
def displayMapTypes : List String := ["Service", "Package", "Deployment", "Profile", "Substrate"]

/-- Records an entity in the display-name map under its type and display name. -/
def recordDisplayName (entityType name : String) (obj : Json) : Build Unit := do
  if !displayMapTypes.contains entityType then return
  modify fun s =>
    let inner := match s.displayMap.get? entityType with
      | some (.obj fields) => Json.obj fields
      | _ => Json.obj []
    { s with displayMap := s.displayMap.set entityType (inner.set name obj) }

/-- Updates a key of an association list, keeping its place, or adds it at the end. -/
def upsert {α : Type} (xs : List (String × α)) (key : String) (v : α) : List (String × α) :=
  if xs.any (·.1 == key) then xs.map fun (k, w) => if k == key then (k, v) else (k, w)
  else xs ++ [(key, v)]

/-- The text of a parameter's default, when the function has a parameter `name` with a text
    default. -/
def nameParamDefault (f : Function) : Option Value :=
  match f.defn.params.find? (·.name == "name") with
  | some _ => (f.defaults.find? (·.1 == "name")).map (·.2)
  | none => none

/-- The display name of a class: its `name` attribute, or its class name when that is empty. -/
def displayName (e : Entity) : String :=
  match e.lookup? "name" with
  | some (.str s) => if s.isEmpty then e.name else s
  | some .none | none => e.name
  | some v => if v.truthy then v.toText else e.name

/-- Records the class in the display-name map: its class name and, for each action defined on
    it whose display name differs from its action name, that action's name. Reading the
    attributes builds the actions. -/
def preCompile (r : Runtime) (e : Entity) : Build Unit := do
  let mut actions : List (String × Json) := []
  for (key, raw) in e.attrs do
    if key == "__parent__" then continue
    let built <- r.attr (.entity e) key
    if built.isKind .action then
      match raw with
      | .function f =>
        let funcName := f.defn.name.toLower
        let system := e.kind.systemActions.any (·.1 == funcName)
        let fragment := e.kind.fragmentActions.any (·.1 == funcName)
        if !system && !fragment then
          match nameParamDefault f with
          | some (.str gui) =>
            if gui != f.actionName then
              actions := upsert actions gui (.obj [("dsl_name", .str f.actionName)])
          | _ => pure ()
      | _ => throw (.missingAttribute
          ("type object '" ++ raw.toText ++ "' has no attribute 'user_func'"))
  recordDisplayName e.kind.schemaName (displayName e)
    (.obj [("dsl_name", .str e.name), ("Action", .obj actions)])

/-- Whether a value is one that a class keeps even under a name with two underscores on each
    side: a variable, an action, a runbook, or a decorated function. -/
def keptUnderDunder (v : Value) : Bool :=
  v.isKind .variable || v.isKind .action || v.isKind .runbook || v.isDescriptor

/-- The class followed by the classes it derives from, each once, nearest first. -/
def Entity.ancestry (e : Entity) : List Entity :=
  e.lineage.foldl (fun acc c => if acc.any (fun a => a.name == c.name && a.kind == c.kind)
    then acc else acc ++ [c]) []

/-- The attributes of a class with those it inherits and the kind's defaults, as the class
    holds them after being made again; decorated functions are built. -/
def allAttrs (r : Runtime) (e : Entity) : Build (List (String × Value)) := do
  let specs <- kindSpecs e.kind
  let mut ns := defaultsOf specs
  for klass in e.ancestry.reverse do
    for (k, v) in klass.attrs do
      ns := upsert ns k v
  let fresh <- create e.kind (some e.name) e.bases e.doc ns
  let mut out : List (String × Value) := []
  for (k, v) in fresh.attrs do
    if k == "__parent__" then continue
    -- the class a reference refers to is not an attribute of the reference
    if e.kind == .ref && k == "__self__" then continue
    if isDunder k && !keptUnderDunder v then continue
    let v' <- if v.isAccessor then r.attr (.entity fresh) k else pure v
    out := upsert out k v'
  pure out

/-- A copy of a class, made again from everything it holds and inherits and the kind's
    defaults; the classes it holds, alone or in a list, are copied the same way, to the depth
    `fuel`. The copy keeps the name, so no fresh name is taken. -/
def cloneClass : Nat -> Entity -> Build Entity
  | 0, _ => throw .tooDeep
  | fuel + 1, e => do
    let specs <- kindSpecs e.kind
    let mut ns := defaultsOf specs
    for klass in e.ancestry.reverse do
      for (k, v) in klass.attrs do
        ns := upsert ns k v
    let mut copied : List (String × Value) := []
    for (k, v) in ns do
      let v' <- match v with
        | .entity c => do pure (Value.entity (<- cloneClass fuel c))
        | .list items => do
          let mut out : List Value := []
          for item in items do
            out := out ++ [<- match item with
              | .entity c => do pure (Value.entity (<- cloneClass fuel c))
              | other => pure other]
          pure (Value.list out)
        | other => pure other
      copied := copied ++ [(k, v')]
    create e.kind (some e.name) e.bases e.doc copied

/-- Moves attributes that the kind does not define into the lists they belong to. -/
def moveExtras (k : Kind) (attrs : List (String × Value)) : Build (List (String × Value)) := do
  let specs <- kindSpecs k
  let defines (n : String) := specs.any (·.name == n)
  if !defines "variables" && !defines "actions" && !defines "runbook" then return attrs
  let listOf (n : String) : List Value :=
    match attrs.find? (·.1 == n) with
    | some (_, .list items) => items
    | some (_, .none) | none => []
    | some (_, v) => [v]
  let mut out := attrs
  if defines "variables" then out := upsert out "variables" (.list (listOf "variables"))
  if defines "actions" then out := upsert out "actions" (.list (listOf "actions"))
  let mut moved : List String := []
  for (key, v) in attrs do
    if defines key then continue
    let target <- if v.isKind .action then pure "actions"
      else if v.isKind .variable then pure "variables"
      else if v.isKind .runbook then pure "runbook"
      else if v.isDescriptor then
        throw (.unboundName
          "cannot access local variable 'attr_name' where it is not associated with a value")
      else throw (.wrongType ("Field " ++ key ++ " has value of type " ++ v.typeText ++
        " but it is not handled for this entity"))
    if target == "runbook" then
      out := upsert out "runbook" v
    else
      match out.find? (·.1 == target) with
      | some (_, .list items) => out := upsert out target (.list (items ++ [v]))
      | _ => throw (.missingKey ("'" ++ target ++ "'"))
    moved := moved ++ [key]
  pure (out.filter fun (k, _) => !moved.contains k)

/-- Compiles an attribute group into the dictionary of its attributes that have defaults, by
    API name; a group with nothing set compiles to an empty dictionary. Nested groups compile
    the same way, to a bounded depth. -/
def compileRecordFuel : Nat -> Schema -> List (String × Value) -> Build Doc
  | 0, _, _ => throw .tooDeep
  | n + 1, shape, fields => do
    if fields.isEmpty then return []
    let specs <- shapeSpecs shape
    let mut out : Doc := []
    for spec in specs do
      match spec.fill with
      | none => pure ()
      | some fill =>
        let v := ((fields.find? (·.1 == spec.name)).map (·.2)).getD fill.value
        let v' <- match v with
          | .record s fs => do
            pure (Value.dict ((<- compileRecordFuel n s fs).map fun (k, x) => (.str k, x)))
          | _ => pure v
        out := out.put spec.apiName v'
    pure out

/-- An attribute group read back as a dictionary by the names of its attributes: nothing until a
    field is set, then every attribute that has a default, nested groups the same way. -/
def recordDictFuel : Nat -> Schema -> List (String × Value) -> Build (List (Value × Value))
  | 0, _, _ => throw .tooDeep
  | n + 1, shape, fields => do
    if fields.isEmpty then return []
    let specs <- shapeSpecs shape
    let mut out : List (Value × Value) := []
    for spec in specs do
      match spec.fill with
      | none => pure ()
      | some fill =>
        let v := ((fields.find? (·.1 == spec.name)).map (·.2)).getD fill.value
        let v' <- match v with
          | .record s fs => do pure (Value.dict (<- recordDictFuel n s fs))
          | _ => pure v
        out := out ++ [(.str spec.name, v')]
    pure out

/-- An attribute group read back as a dictionary; see `recordDictFuel`. -/
def recordDict (shape : Schema) (fields : List (String × Value)) : Build Value := do
  pure (.dict (<- recordDictFuel 32 shape fields))

/-- Compiles an attribute group; see `compileRecordFuel`. -/
def compileRecord (shape : Schema) (fields : List (String × Value)) : Build Doc :=
  compileRecordFuel 32 shape fields

/-- The compiled dictionary of a class, by the steps that every kind shares. -/
def compileGeneric (r : Runtime) (e : Entity) : Build Doc := do
  preCompile r e
  let attrs <- moveExtras e.kind (<- allAttrs r e)
  let specs <- kindSpecs e.kind
  let mut cdict : Doc := []
  for (k, v) in attrs do
    let some spec := specs.find? (·.name == k) | throw (.missingKey ("'" ++ k ++ "'"))
    match v with
    | .record shape fields =>
      let d <- compileRecord shape fields
      cdict := cdict.putNew spec.apiName (.dict (d.map fun (k, x) => (.str k, x)))
    | _ => cdict := cdict.putNew spec.apiName v
  if (Doc.field cdict "name").isText "" then cdict := cdict.put "name" (.str e.name)
  if (Doc.field cdict "description").isText "" then
    cdict := cdict.put "description" (.str (e.doc.getD ""))
  pure cdict

end Blueprints
