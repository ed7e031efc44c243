import Blueprints.Library.Builtin
import Blueprints.Http.Client

namespace Blueprints.Library.References
open Build Text Http

/-- The text of a value used as a name in a lookup: other values find nothing. -/
def lookupName? (v : Value) : Option String := v.str?

/-- The text of a value used as a filter: a false value filters nothing. -/
def filterText (v : Value) : String :=
  match v with
  | .str s => s
  | v => if v.truthy then v.toText else ""

/-- A reference of the cache given as a dictionary. -/
def refDict (kind name uuid : String) : Value :=
  textDict [("kind", .str kind), ("name", .str name), ("uuid", .str uuid)]

/-- Makes a reference class that is resolved when compiled. -/
def calmRef (refKind : String) (kwargs : List (String × Value)) : Build Value := do
  let name := ((kwargs.find? (·.1 == "name")).map (·.2)).getD .none
  pure (.entity (<- makeClass .calmRef name [] (upsert kwargs "__ref_cls__" (.str refKind))))

/-- The project that names are resolved in: the project of the file's metadata, or the
    request's. -/
def currentProject : Build ProjectRow := do
  let configured <- contextProject
  let s <- get
  let reference : Option Json := s.metadata.get? "project_reference"
  let fromMetadata : Option String := match reference.bind (·.get? "name") with
    | some (.str n) => if n.isEmpty then none else some n
    | _ => none
  let name := fromMetadata.getD configured
  match s.cache.project? name with
  | some p => pure p
  | none => exitWith ("Project " ++ name ++ " not found. Please run: calm update cache")

/-- The kind, the cache's uuid (when it holds the name) and the label in messages of a reference
    resolved at once. -/
def resolveNow (cache : Cache) (refKind n directory displayName : String) :
    String × Option String × String :=
  match refKind with
  | "User" => ("user", (cache.user? n directory displayName).map (·.uuid), "User")
  | "Group" => ("user_group", (cache.userGroup? n directory displayName).map (·.uuid), "User Group")
  | "Role" => ("role", (cache.role? n).map (·.uuid), "Role")
  | "Project" => ("project", (cache.project? n).map (·.uuid), "Project")
  | _ => ("directory_service", (cache.directoryService? n).map (·.uuid), "Directory Service")

/-- The references resolved at once, by the name of their class. -/
def immediate (refKind : String) (b : Bound) : Build Value := do
  let cache := (<- get).cache
  let name := b.get "name"
  let directory := filterText ((b.extra? "directory").getD .none)
  let displayName := filterText ((b.extra? "display_name").getD .none)
  let (kind, uuid?, label) := resolveNow cache refKind ((lookupName? name).getD "") directory
    displayName
  match (lookupName? name), uuid? with
  | some n, some uuid => pure (refDict kind n uuid)
  | _, _ => throw (.failure (label ++ " " ++ name.toText ++ " not found. Please run: calm update cache"))

/-- The reference constructors, by the name that a path resolves to. -/
def builtin? (name : String) : Option Builtin :=
  let deferred (refKind : String) : Builtin := {
    sig := { qualName := "Ref." ++ refKind ++ ".__new__", params := [], implicit := 1,
             varKw := true }
    run := fun b => calmRef refKind b.extra }
  let named (refKind : String) (run : Bound -> Build Value) : Builtin := {
    sig := { qualName := "Ref." ++ refKind ++ ".__new__", params := [req "name"], implicit := 1,
             varKw := true }
    run }
  match name with
  | "Ref" => some (refusing "Ref" "'Ref' is not callable")
  | "Ref.Subnet" => some (deferred "Subnet")
  | "Ref.Environment" => some (deferred "Environment")
  | "Ref.Vm" => some (deferred "Vm")
  | "Ref.RecoveryPoint" => some (deferred "RecoveryPoint")
  | "Ref.Account" => some (named "Account" fun b =>
      calmRef "Account" (upsert b.extra "name" (b.get "name")))
  | "Ref.Resource_Type" => some (named "Resource_Type" fun b =>
      calmRef "Resource_Type" (upsert b.extra "name" (b.get "name")))
  | "Ref.User" => some (named "User" (immediate "User"))
  | "Ref.Group" => some (named "Group" (immediate "Group"))
  | "Ref.Role" => some (named "Role" (immediate "Role"))
  | "Ref.Project" => some (named "Project" (immediate "Project"))
  | "Ref.DirectoryService" => some (named "DirectoryService" (immediate "DirectoryService"))
  | _ => none

def member? (owner attr : String) : Option String :=
  if owner == "Ref" && ["Subnet", "User", "Group", "Account", "Role", "Project", "Environment",
      "DirectoryService", "Vm", "RecoveryPoint", "Resource_Type"].contains attr then
    some ("Ref." ++ attr)
  else none

/-- Resolves a reference class against the cache. `parents` are the classes it is nested in,
    nearest first. -/
def compile (r : Runtime) (parents : List Entity) (e : Entity) : Build Doc := do
  let refKind := match e.lookup? "__ref_cls__" with
    | some (.str k) => k
    | _ => ""
  let userAttrs := e.attrs.filter fun (k, _) => !isDunder k && k != "__parent__"
  let get? (k : String) : Option Value := (userAttrs.find? (·.1 == k)).map (·.2)
  let getD (k : String) : Value := (get? k).getD .none
  let qual := "Ref." ++ refKind ++ ".compile"
  let requireName : Build Value := match get? "name" with
    | some v => pure v
    | none => throw (.wrongType (qual ++ "() missing 1 required positional argument: 'name'"))
  let cache := (<- get).cache
  let fieldsOf (kind name uuid : String) : Doc :=
    [("kind", .str kind), ("name", .str name), ("uuid", .str uuid)]
  match refKind with
  | "Subnet" =>
    let name <- requireName
    let mut accountUuid := getD "account_uuid"
    match parents.head? with
    | some p =>
      try
        let acc <- r.attr (.entity p) "account_reference"
        let d <- r.call (<- r.attr acc "get_dict") [] []
        accountUuid <- match d with
          | .dict entries => pure ((dictGet? entries "uuid").getD .none)
          | v => throw (v.noAttribute "get")
      catch
        | .exit s => throw (.exit s)
        | _ => pure ()
    | none => pure ()
    let row := (lookupName? name).bind fun n =>
      cache.subnet? n (filterText (getD "cluster")) (filterText accountUuid)
    match row with
    | some s => pure (fieldsOf "subnet" s.name s.uuid)
    | none => throw (.failure ("AHV Subnet " ++ name.toText ++
        " not found. Please run: calm update cache"))
  | "Account" =>
    let name <- requireName
    let row := (lookupName? name).bind fun n => cache.account? n (filterText (getD "provider_type"))
    match row with
    | some a => pure (fieldsOf "account" a.name a.uuid)
    | none => throw (.failure ("Account " ++ name.toText ++
        " not found. Please run: calm update cache"))
  | "Environment" =>
    let name <- requireName
    let project <- currentProject
    match (lookupName? name).bind fun n => cache.environment? n project.uuid with
    | some env => pure (fieldsOf "environment" env.name env.uuid)
    | none => exitWith ("Environment '" ++ name.toText ++ "' not found in project '" ++
        project.name ++ "'. Please run: calm update cache")
  | "Vm" =>
    let name := (get? "name").getD (.str "")
    let mut uuid := (get? "uuid").getD (.str "")
    -- the account is read only when the enclosing class holds it as plain data
    let accountUuid := match parents.head? with
      | some p => match p.lookup? "attrs" with
        | some (.dict es) => match dictGet? es "account_reference" with
          | some (.dict acc) => ((dictGet? acc "uuid").getD (.str "")).toText
          | _ => ""
        | _ => ""
      | none => ""
    if name.truthy then
      let params := Value.dict [(.str "filter", .str ("name==" ++ name.toText)), (.str "length", .int 250)]
      let path := "api/nutanix/v3/accounts/" ++ accountUuid ++ "/vms/list"
      let outcome <- Http.Call.send { method := .post, payload := params, endpoint := path }
      outcome.exitOnErrorText
      let res <- outcome.json
      let total <- at! (<- at! res "metadata") "total_matches"
      match total with
      | .int 0 => exitWith ("No vm with name " ++ quoted name.toText ++ " found")
      | .int n =>
        if n > 1 && !uuid.truthy then
          exitWith "Multiple vms with same name found. Please provide vm uuid"
      | _ => pure ()
      if !uuid.truthy then
        let first <- subscript (<- at! res "entities") (.int 0)
        uuid <- at! (<- at! first "status") "uuid"
    let shown <- if name.truthy then pure name
      else pure (.str ("_VM_NAME_" ++ String.ofList ((<- Build.freshId).toList.take 10)))
    pure [("uuid", uuid), ("kind", .str "vm"), ("name", shown)]
  | "Resource_Type" =>
    let name <- requireName
    if !name.truthy then exitWith "Resource type name not passed, pls pass resource type name"
    let params := Value.dict [(.str "filter", .str ("name==" ++ name.toText)), (.str "length", .int 250)]
    let path := "api/calm/v3.0/resource_types/list"
    let outcome <- Http.Call.send { method := .post, payload := params, endpoint := path }
    outcome.exitOnErrorText
    let res <- outcome.json
    match <- at! (<- at! res "metadata") "total_matches" with
    | .int 0 => exitWith ("No vm with name " ++ quoted name.toText ++ " found")
    | .int n =>
      if n > 1 then
        exitWith "Multiple resource type with same name found. Please provide resource type uuid"
    | _ => pure ()
    let first <- subscript (<- at! res "entities") (.int 0)
    let uuid <- at! (<- at! first "status") "uuid"
    pure [("uuid", uuid), ("name", name), ("kind", .str "resource_type")]
  | k => throw (.unsupported ("resolving a reference of kind " ++ k))

end Blueprints.Library.References
