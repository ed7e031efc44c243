import Blueprints.Api.Uploads
import Blueprints.Text.Version

namespace Blueprints.Api

open Http Library Library.Entities Text Call

/-- What an operation of the client gives back. -/
inductive Answer where
  | outcome (o : Outcome)
  | value (v : Value)
deriving Inhabited

/-- An operation of an object of the client. -/
structure Operation where
  name : String
  owner : String
  params : List (String × Option Value)
  static : Bool := false
  run : Bound -> Build Answer

/-- An operation that answers the outcome of a request. -/
def call (name owner : String) (params : List (String × Option Value))
    (run : Bound -> Build Outcome) : Operation :=
  { name, owner, params, run := fun b => do pure (.outcome (<- run b)) }

/-- An operation that answers a computed value. -/
def compute (name owner : String) (params : List (String × Option Value))
    (run : Bound -> Build Value) : Operation :=
  { name, owner, params, run := fun b => do pure (.value (<- run b)) }

/-- The text that formatting a value into a path inserts. -/
def seg (v : Value) : String := v.toText

/-- The operations that every collection has. -/
def common (r : Resource) : List Operation :=
  let o := "ResourceAPI"
  [ call "create" o [req "payload"] fun b => r.create (b.get "payload"),
    call "read" o [opt "id" .none] fun b => r.read (b.get "id"),
    call "update" o [req "uuid", req "payload"] fun b => r.update (b.get "uuid") (b.get "payload"),
    call "delete" o [req "uuid"] fun b => r.delete (b.get "uuid"),
    call "list" o [opt "params" emptyDict, opt "ignore_error" (.bool false)] fun b =>
      r.list (b.get "params") (b.get "ignore_error").truthy,
    compute "get_name_uuid_map" o [opt "params" emptyDict] fun b => r.nameUuidMap (b.get "params"),
    compute "get_uuid_name_map" o [opt "params" emptyDict] fun b => r.uuidNameMap (b.get "params"),
    compute "list_all" o [opt "api_limit" (.int 250), opt "base_params" .none,
      opt "ignore_error" (.bool false)] fun b =>
      r.listAll (b.get "api_limit") (b.get "base_params") (b.get "ignore_error").truthy ]

def getAt (endpoint : String) (ignoreError : Bool := false) : Build Outcome :=
  send { method := .get, endpoint, ignoreError }

def postAt (endpoint : String) (payload : Value) : Build Outcome :=
  send { method := .post, endpoint, payload }

/-- The file of the working directory at a path, as the file system gives it. -/
def readFile (path : Value) : Build String := do
  let name := path.toText
  match (<- get).files.lookup name with
  | some text => pure text
  | none => throw (.failure ("[Errno 2] No such file or directory: " ++ quoted name))

/-- Uploads a file of the working directory as a form with a name, a project and a passphrase. -/
def importFile (r : Resource) (b : Bound) : Build Outcome := do
  let mut payload := [("name", b.get "name"), ("project_uuid", b.get "project_uuid")]
  if (b.get "passphrase").truthy then payload := payload ++ [("passphrase", b.get "passphrase")]
  let content <- readFile (b.get "file_path")
  let files := some [{ field := "file", fileName := "file", content }]
  send { method := .post, endpoint := r.base ++ "/import_file", payload := dictOf payload,
              files }

/-- The operations that export an entity as JSON, with or without its secrets. -/
def exports (r : Resource) (owner : String) : List Operation :=
  [ call "export_json" owner [req "uuid"] fun b => getAt (r.item (b.get "uuid") ++ "/export_json"),
    call "export_json_with_secrets" owner [req "uuid"] fun b =>
      getAt (r.item (b.get "uuid") ++ "/export_json?keep_secrets=true") ]

/-- The path of a project in the part of the API that deletes projects and runs their tasks. -/
def calmProjectPath (uuid : Value) : String := root ++ "/calm_projects/" ++ seg uuid

/-- Creates a project, unless the server lists one of the name that the payload gives in its
    spec or else in its metadata: that is refused with an error of code -1. -/
def createProject (r : Resource) (payload : Value) : Build Outcome := do
  let specName <- getOr (<- at! payload "spec") "name" .none
  let name <- if specName.truthy then pure specName
    else getOr (<- at! payload "metadata") "name" .none
  let listed <- r.list (dictOf [("filter", .str ("name==" ++ name.toText))])
  if let some err := listed.error then return ⟨none, some err⟩
  let response <- listed.json
  let entities <- getOr response "entities" .none
  if entities.truthy then
    return ⟨none, some (errorOf (.str ("Project " ++ name.toText ++ " already exists.")) (-1))⟩
  r.create payload

def projectOperations (r : Resource) : List Operation :=
  let o := "ProjectAPI"
  [ call "create" o [req "payload"] fun b => createProject r (b.get "payload"),
    call "usage" o [req "uuid", req "payload"] fun b =>
      postAt (calmProjectPath (b.get "uuid") ++ "/usage") (b.get "payload"),
    call "delete" o [req "uuid"] fun b =>
      send { method := .delete, endpoint := calmProjectPath (b.get "uuid") },
    call "read_pending_task" o [req "uuid", req "task_uuid"] fun b =>
      getAt (calmProjectPath (b.get "uuid") ++ "/pending_tasks/" ++ seg (b.get "task_uuid")) ]

def blueprintOperations (r : Resource) : List Operation :=
  let o := "BlueprintAPI"
  let item (v : Value) := r.item v
  [ call "upload" o [req "payload"] fun b => postAt (r.base ++ "/import_json") (b.get "payload"),
    call "launch" o [req "uuid", req "payload"] fun b =>
      postAt (item (b.get "uuid") ++ "/simple_launch") (b.get "payload"),
    call "full_launch" o [req "uuid", req "payload"] fun b =>
      postAt (item (b.get "uuid") ++ "/launch") (b.get "payload"),
    call "marketplace_launch" o [req "payload"] fun b =>
      postAt (r.base ++ "/marketplace_launch") (b.get "payload"),
    call "patch_with_environment" o [req "uuid", req "payload"] fun b =>
      postAt (item (b.get "uuid") ++ "/patch_with_environment") (b.get "payload"),
    call "poll_launch" o [req "blueprint_id", req "request_id"] fun b =>
      getAt (item (b.get "blueprint_id") ++ "/pending_launches/" ++ seg (b.get "request_id")),
    call "_get_editables" o [req "bp_uuid"] fun b =>
      getAt (item (b.get "bp_uuid") ++ "/runtime_editables"),
    call "brownfield_vms" o [req "payload"] fun b => do
      let payload := b.get "payload"
      let filter <- arith .add (<- at! payload "filter") (.str ";refresh_cache==True")
      postAt (r.base ++ "/brownfield_import/vms/list") (<- setKey payload "filter" filter),
    call "protection_policies" o [req "bp_uuid", req "app_profile_uuid", req "config_uuid",
        req "env_uuid", opt "length" (.int 250), opt "offset" (.int 0)] fun b =>
      postAt (item (b.get "bp_uuid") ++ "/app_profile/" ++ seg (b.get "app_profile_uuid") ++
        "/config_spec/" ++ seg (b.get "config_uuid") ++ "/app_protection_policies/list")
        (dictOf [("length", .int 250), ("offset", .int 0),
          ("filter", .str ("environment_references==" ++ seg (b.get "env_uuid")))]),
    { name := "_make_blueprint_payload", owner := o, static := true,
      params := [req "bp_name", req "bp_desc", req "bp_resources", opt "bp_metadata" .none],
      run := fun b => pure (.value (blueprintPayload (b.get "bp_name") (b.get "bp_desc")
        (b.get "bp_resources") (b.get "bp_metadata"))) },
    call "upload_with_secrets" o [req "bp_name", req "bp_desc", req "bp_resources",
        opt "bp_metadata" .none, opt "force_create" (.bool false)] fun b =>
      uploadBlueprint r (b.get "bp_name") (b.get "bp_desc") (b.get "bp_resources")
        (b.get "bp_metadata") (b.get "force_create"),
    call "export_file" o [req "uuid"] fun b => getAt (item (b.get "uuid") ++ "/export_file"),
    call "variable_values" o [req "uuid", req "var_uuid"] fun b =>
      getAt (item (b.get "uuid") ++ "/variables/" ++ seg (b.get "var_uuid") ++ "/values") true,
    call "variable_values_from_trlid" o [req "uuid", req "var_uuid", req "req_id",
        req "trl_id"] fun b =>
      getAt (item (b.get "uuid") ++ "/variables/" ++ seg (b.get "var_uuid") ++
        "/values?requestId=" ++ seg (b.get "req_id") ++ "&trlId=" ++ seg (b.get "trl_id")) true ]
    ++ exports r o

/-- The payload of an endpoint or a runbook, for the operations that make them. -/
def kindPayload (kind : String) (b : Bound) (name desc resources : String) : Value :=
  entityPayload (b.get name) (b.get desc) (b.get resources)
    (newMetadata kind (b.get name) (b.get "spec_version"))

def endpointOperations (r : Resource) : List Operation :=
  let o := "EndpointAPI"
  [ call "upload" o [req "payload"] fun b => postAt (r.base ++ "/import_json") (b.get "payload"),
    { name := "_make_endpoint_payload", owner := o, static := true,
      params := [req "endpoint_name", req "endpoint_desc", req "endpoint_resources",
        opt "spec_version" .none],
      run := fun b => pure (.value (kindPayload "endpoint" b "endpoint_name" "endpoint_desc"
        "endpoint_resources")) },
    call "upload_with_secrets" o [req "endpoint_name", req "endpoint_desc",
        req "endpoint_resources", opt "force_create" (.bool false)] fun b =>
      uploadEndpoint r (b.get "endpoint_name") (b.get "endpoint_desc")
        (b.get "endpoint_resources") (b.get "force_create"),
    call "import_file" o [req "file_path", req "name", req "project_uuid",
      opt "passphrase" .none] (importFile r) ]
    ++ exports r o

/-- The path of a run log of runbooks, with what follows it. -/
def runlogPath (r : Resource) (id : Value) (rest : String := "") : String :=
  r.base ++ "/runlogs/" ++ seg id ++ rest

def runbookOperations (r : Resource) : List Operation :=
  let o := "RunbookAPI"
  let emptyPost (endpoint : String) := postAt endpoint emptyDict
  [ call "upload" o [req "payload"] fun b => postAt (r.base ++ "/import_json") (b.get "payload"),
    call "resume" o [req "action_runlog_id", req "task_runlog_id", req "payload"] fun b =>
      postAt (runlogPath r (b.get "action_runlog_id") ("/children/" ++
        seg (b.get "task_runlog_id") ++ "/resume")) (b.get "payload"),
    call "pause" o [req "uuid"] fun b => emptyPost (runlogPath r (b.get "uuid") "/pause"),
    call "play" o [req "uuid"] fun b => emptyPost (runlogPath r (b.get "uuid") "/play"),
    call "rerun" o [req "uuid"] fun b => emptyPost (runlogPath r (b.get "uuid") "/rerun"),
    call "abort" o [req "uuid"] fun b => emptyPost (runlogPath r (b.get "uuid") "/abort"),
    call "update_using_name_reference" o [req "uuid", req "payload"] fun b =>
      send { method := .put, endpoint := r.item (b.get "uuid") ++ "/update",
                  payload := b.get "payload" },
    { name := "_make_runbook_payload", owner := o, static := true,
      params := [req "runbook_name", req "runbook_desc", req "runbook_resources",
        opt "spec_version" .none],
      run := fun b => pure (.value (kindPayload "runbook" b "runbook_name" "runbook_desc"
        "runbook_resources")) },
    call "upload_with_secrets" o [req "runbook_name", req "runbook_desc",
        req "runbook_resources", opt "force_create" (.bool false)] fun b =>
      uploadRunbook r (b.get "runbook_name") (b.get "runbook_desc")
        (b.get "runbook_resources") (b.get "force_create"),
    call "list_runbook_runlogs" o [opt "params" .none] fun b =>
      postAt (r.base ++ "/runlogs/list") (b.get "params"),
    call "run" o [req "uuid", req "payload"] fun b => do
      let version := (<- get).version
      let action := if versionLt version "3.3.2" then "/run" else "/execute"
      postAt (r.item (b.get "uuid") ++ action) (b.get "payload"),
    call "run_script" o [req "uuid", req "payload"] fun b =>
      postAt (r.item (b.get "uuid") ++ "/run_script") (b.get "payload"),
    call "run_script_output" o [req "uuid", req "trl_id", req "request_id"] fun b =>
      getAt (r.item (b.get "uuid") ++ "/run_script/output/" ++ seg (b.get "trl_id") ++ "/" ++
        seg (b.get "request_id")),
    call "list_runlogs" o [req "uuid"] fun b =>
      emptyPost (runlogPath r (b.get "uuid") "/children/list"),
    call "runlog_output" o [req "action_runlog_id", req "task_runlog_id"] fun b =>
      getAt (runlogPath r (b.get "action_runlog_id") ("/children/" ++
        seg (b.get "task_runlog_id") ++ "/output")),
    call "poll_action_run" o [req "uuid", opt "payload" .none] fun b =>
      if (b.get "payload").truthy then postAt (runlogPath r (b.get "uuid")) (b.get "payload")
      else getAt (runlogPath r (b.get "uuid")),
    call "update_with_secrets" o [req "uuid", req "runbook_name", req "runbook_desc",
        req "runbook_resources", req "spec_version"] fun b =>
      updateRunbook r (b.get "uuid") (b.get "runbook_name") (b.get "runbook_desc")
        (b.get "runbook_resources") (b.get "spec_version"),
    call "import_file" o [req "file_path", req "name", req "project_uuid",
      opt "passphrase" .none] (importFile r),
    call "marketplace_execute" o [req "payload"] fun b =>
      postAt (r.base ++ "/marketplace_execute") (b.get "payload"),
    call "marketplace_clone" o [req "payload"] fun b =>
      postAt (r.base ++ "/marketplace_clone") (b.get "payload"),
    call "variable_values" o [req "uuid", req "var_uuid", opt "payload" emptyDict] fun b =>
      postAt (r.item (b.get "uuid") ++ "/variables/" ++ seg (b.get "var_uuid") ++ "/values")
        (b.get "payload") ]
    ++ exports r o

def applicationOperations (r : Resource) : List Operation :=
  let o := "ApplicationAPI"
  [ call "run_action" o [req "app_id", req "action_id", req "payload"] fun b =>
      postAt (r.item (b.get "app_id") ++ "/actions/" ++ seg (b.get "action_id") ++ "/run")
        (b.get "payload"),
    call "run_patch" o [req "app_id", req "patch_id", req "payload"] fun b =>
      postAt (r.item (b.get "app_id") ++ "/patch/" ++ seg (b.get "patch_id") ++ "/run")
        (b.get "payload"),
    call "poll_action_run" o [req "poll_url", opt "payload" .none] fun b =>
      if (b.get "payload").truthy then postAt (seg (b.get "poll_url")) (b.get "payload")
      else getAt (seg (b.get "poll_url")),
    call "delete" o [req "app_id", opt "soft_delete" (.bool false)] fun b =>
      send { method := .delete, endpoint := r.item (b.get "app_id") ++
        (if (b.get "soft_delete").truthy then "?type=soft" else "") },
    call "download_runlog" o [req "app_id", req "runlog_id"] fun b =>
      getAt (r.item (b.get "app_id") ++ "/app_runlogs/" ++ seg (b.get "runlog_id") ++
        "/output/download"),
    call "action_variables" o [req "app_id", req "action_name"] fun b =>
      getAt (r.item (b.get "app_id") ++ "/actions/" ++ seg (b.get "action_name") ++ "/variables"),
    call "get_recovery_groups" o [req "app_id", req "api_filter", opt "length" (.int 250),
        opt "offset" (.int 0)] fun b =>
      postAt (r.item (b.get "app_id") ++ "/recovery_groups/list")
        (dictOf [("filter", b.get "api_filter"), ("length", b.get "length"),
          ("offset", b.get "offset")]) ]

def accountOperations (r : Resource) : List Operation :=
  let o := "AccountsAPI"
  [ call "verify" o [req "id"] fun b => getAt (r.base ++ "/" ++ seg (b.get "id") ++ "/verify"),
    call "vms_list" o [req "id", opt "params" emptyDict] fun b =>
      postAt (r.item (b.get "id") ++ "/vms/list") (b.get "params"),
    compute "get_uuid_type_map" o [opt "params" emptyDict] fun b => do
      let listed <- r.listAll (.int 250) (b.get "params") true
      let (entities, err) <- match listed with
        | .tuple [es, err] => pure (es, err)
        | v => pure (v, .none)
      if err.truthy then throw (.failure err.toText)
      let mut map : List (Value × Value) := []
      for e in <- iterate entities do
        let uuid <- path! e ["metadata", "uuid"]
        let kind <- path! e ["status", "resources", "type"]
        map := (map.filter fun (k, _) => !k.equal uuid) ++ [(uuid, kind)]
      pure (.dict map) ]

/-- The name of a user group and whether it counts, read from its entity: only complete groups
    of a directory service count, by their distinguished name, as the specification writes it
    when it has one. -/
def groupName (e : Value) : Build (Option Value) := do
  let status <- at! e "status"
  if !(<- at! status "state").equal (.str "COMPLETE") then return none
  let resources <- at! status "resources"
  let dsGroup <- getOr resources "directory_service_user_group" .none
  let dsGroup := if dsGroup.truthy then dsGroup else emptyDict
  let mut name <- getOr dsGroup "distinguished_name" .none
  try
    name <- path! e ["spec", "resources", "directory_service_user_group", "distinguished_name"]
  catch _ => pure ()
  let dsRef <- getOr dsGroup "directory_service_reference" .none
  let dsRef := if dsRef.truthy then dsRef else emptyDict
  let dsName <- getOr dsRef "name" (.str "")
  if dsName.truthy && name.truthy then return some name
  pure none

/-- The user groups that count on one page of a collection of groups, by name, with their
    uuids. -/
def groupPairs (r : Resource) (params : Value) : Build (List (Value × Value)) := do
  let response <- (<- r.list params).jsonOrRaise
  let mut out : List (Value × Value) := []
  for e in <- iterate (<- at! response "entities") do
    if let some name <- groupName e then
      out := out ++ [(name, <- path! e ["metadata", "uuid"])]
  pure out

/-- The uuids of the user groups that count on one page, by name. -/
def groupNameUuidMap (r : Resource) (params : Value) : Build Value := do
  pure (keepLast (<- groupPairs r params))

/-- The names of the user groups that count on one page, by uuid. -/
def groupUuidNameMap (r : Resource) (params : Value) : Build Value := do
  pure (keepLast ((<- groupPairs r params).map fun (n, u) => (u, n)))

def groupOperations (r : Resource) : List Operation :=
  let o := "UserGroupAPI"
  [ compute "get_name_uuid_map" o [opt "params" emptyDict] fun b =>
      groupNameUuidMap r (b.get "params"),
    compute "get_uuid_name_map" o [opt "params" emptyDict] fun b =>
      groupUuidNameMap r (b.get "params") ]

/-- An object of the client: the collection it serves and its own operations, which come before
    the common ones. -/
structure Part where
  resource : Resource
  own : List Operation := []
  isCollection : Bool := true

def noOperations (_ : Resource) : List Operation := []

/-- The objects of the client by attribute name. -/
def parts : List (String × Part) :=
  let part (cls name : String) (calm : Bool) (ops : Resource -> List Operation) : Part :=
    let r := Resource.named cls name calm
    { resource := r, own := ops r }
  [ ("project", part "ProjectAPI" "projects" false projectOperations),
    ("environment", part "EnvironmentAPI" "environments" false fun r =>
      [call "list" "EnvironmentAPI" [opt "params" emptyDict, opt "ignore_error" (.bool false)]
        fun b => r.list (b.get "params") (b.get "ignore_error").truthy]),
    ("blueprint", part "BlueprintAPI" "blueprints" false blueprintOperations),
    ("endpoint", part "EndpointAPI" "endpoints" false endpointOperations),
    ("runbook", part "RunbookAPI" "runbooks" false runbookOperations),
    ("task", part "TaskLibraryApi" "app_tasks" false noOperations),
    ("application", part "ApplicationAPI" "apps" false applicationOperations),
    ("account", part "AccountsAPI" "accounts" false accountOperations),
    ("market_place", part "MarketPlaceAPI" "calm_marketplace_items" false fun r =>
      [call "variable_values" "MarketPlaceAPI" [req "uuid", req "var_uuid",
          opt "payload" emptyDict] fun b =>
        postAt (r.item (b.get "uuid") ++ "/variables/" ++ seg (b.get "var_uuid") ++ "/values")
          (b.get "payload")]),
    ("app_icon", part "AppIconAPI" "app_icons" false fun r =>
      [call "upload" "AppIconAPI" [req "icon_name", req "file_path"] fun b => do
        let content <- readFile (b.get "file_path")
        let name := seg (b.get "icon_name")
        let files := some [{ field := "image", fileName := name, content,
                             contentType := some "image/jpeg" }]
        send { method := .post, endpoint := r.base ++ "/upload",
                    payload := dictOf [("name", b.get "icon_name")], files },
       call "is_marketplace_icon" "AppIconAPI" [req "uuid"] fun b =>
        getAt (r.base ++ "/" ++ seg (b.get "uuid") ++ "/is_marketplaceicon")]),
    ("version", { resource := { className := "VersionAPI", base := "" },
                  isCollection := false,
                  own := [call "get_calm_version" "VersionAPI" [] fun _ => getAt "apps/version",
        call "get_pc_version" "VersionAPI" [] fun _ =>
          send { method := .get, endpoint := "PrismGateway/services/rest/v1/cluster/version",
                      ignoreError := true, warning := "Could not get PC Version" }] }),
    ("showback", part "ShowbackAPI" "app_showback" false fun r =>
      [call "status" "ShowbackAPI" [] fun _ => getAt (r.item (.str "status"))]),
    ("user", part "UserAPI" "users" false noOperations),
    ("group", part "UserGroupAPI" "user_groups" false groupOperations),
    ("role", part "RoleAPI" "roles" false noOperations),
    ("directory_service", part "DirectoryServiceAPI" "directory_services" false noOperations),
    ("acp", part "AccessControlPolicyAPI" "access_control_policies" false noOperations),
    ("app_protection_policy", part "AppProtectionPolicyAPI" "app_protection_policies" true noOperations),
    ("vm_recovery_point", part "VmRecoveryPointAPI" "nutanix/v1/vm_recovery_points" false noOperations),
    ("nutanix_task", part "TaskAPI" "tasks" false noOperations),
    ("job", part "JobAPI" "jobs" false fun r =>
      [call "instances" "JobAPI" [req "uuid", opt "params" emptyDict,
          opt "ignore_error" (.bool false)] fun b =>
        send { method := .post, endpoint := r.item (b.get "uuid") ++ "/instances",
                    payload := b.get "params", ignoreError := (b.get "ignore_error").truthy }]),
    ("resource_types", part "ResourceTypeAPI" "resource_types" true fun r =>
      [call "run_test_runbook" "ResourceTypeAPI" [req "resource_type_id", req "action_id",
          req "payload"] fun b =>
        postAt (r.item (b.get "resource_type_id") ++ "/test_runbook/" ++
          seg (b.get "action_id") ++ "/run") (b.get "payload")]) ]

/-- The operation of an object by name: its own first, then the common ones. -/
def Part.operation? (p : Part) (name : String) : Option Operation :=
  match p.own.find? (·.name == name) with
  | some op => some op
  | none => if p.isCollection then (common p.resource).find? (·.name == name) else none

/-- Calls an operation of an object of the client with positional and keyword arguments. -/
def invoke (attr method : String) (args : List Value) (kwargs : List (String × Value)) :
    Build Answer := do
  let some part := parts.lookup attr
    | throw (.missingAttribute ("'ClientHandle' object has no attribute '" ++ attr ++ "'"))
  let some op := part.operation? method
    | throw (.missingAttribute ("'" ++ part.resource.className ++ "' object has no attribute '" ++
        method ++ "'"))
  let sig : Signature := { qualName := op.owner ++ "." ++ op.name, params := op.params,
                           implicit := if op.static then 0 else 1 }
  match sig.bind args kwargs with
  | .ok bound => op.run bound
  | .error f => throw f

end Blueprints.Api
