import Blueprints.Cli.Listing

namespace Blueprints.Cli

open Library Http Build Text Api Call

def blueprintStates : List String := ["ACTIVE", "DELETED", "DRAFT", "ERROR"]

def applicationStates : List String :=
  ["provisioning", "stopped", "running", "error", "deleted", "deleting", "starting", "stopping",
   "restarting", "busy", "timeout", "updating"]

def runbookStates : List String := ["ACTIVE", "DELETED", "DRAFT", "ERROR"]

def accountStates : List String :=
  ["DELETED", "VERIFIED", "NOT_VERIFIED", "VERIFY_FAILED", "DRAFT", "ACTIVE", "UNSAVED"]

def jobStates : List String := ["ACTIVE", "DELETED", "INACTIVE"]

def taskStates : List String := ["ACTIVE", "DELETED", "DRAFT"]

def finishedRunStates : List String :=
  ["SUCCESS", "FAILURE", "APPROVAL_FAILED", "WARNING", "ERROR", "ABORTED", "SYS_FAILURE",
   "SYS_ERROR", "SYS_ABORTED"]

def statusName (e : Value) : Build Value := path! e ["status", "name"]

/-- The page of a listing command: its filter built from the name, the filter given and the
    added parts. -/
def listingParams (values : ParamValues) (extras : List String) : Value :=
  pageParams (paramValue values "limit") (paramValue values "offset")
    (filterQuery (textValue? values "name") (textValue? values "filter_by") extras)

/-- Whether deleted entities are asked for too. -/
def allItems (values : ParamValues) : Bool := flagValue values "all_items"

/-- Shows the entities of a page: none found, their names, or a table with a row each. -/
def showEntities (values : ParamValues) (entities : List Value) (what : String)
    (nameOf : Value -> Build Value) (headers : List String) (row : Value -> Build (List String)) :
    Build Unit := do
  if entities.isEmpty then return <- noneFound what
  if flagValue values "quiet" then return <- printNames entities nameOf
  printGrid headers (<- entities.mapM row)

def entitiesOf (response : Value) : Build (List Value) := do
  iterate (<- at! response "entities")

/-- The entities of the page of a listing command, or none when the page cannot be read or is
    written as JSON: `truncated` warns when the server has more matches than the page holds, and
    `json` writes the page as JSON when that output is asked for. -/
def readListing (values : ParamValues) (r : Api.Resource) (extras : List String) (what : String)
    (truncated json : Bool) : Build (Option (List Value)) := do
  let some res <- readPage r (listingParams values extras) (cannotFetch what) | return none
  if truncated then warnTruncated res (paramValue values "limit")
  if json && textValue values "out" == "json" then
    printJson res
    return none
  pure (some (<- entitiesOf res))

def listBlueprints (values : ParamValues) : Build Unit := do
  let extras := if allItems values then [statesFilter "state" blueprintStates] else []
  let some entities <- readListing values (.named "BlueprintAPI" "blueprints")
      extras "blueprints" true true | return
  showEntities values entities "blueprint" statusName
    ["NAME", "BLUEPRINT TYPE", "APPLICATION COUNT", "PROJECT", "STATE", "CREATED ON",
     "LAST UPDATED", "UUID"] fun e => do
      let status <- at! e "status"
      let metadata <- at! e "metadata"
      let categories <- getOr metadata "categories" (.dict [])
      let single := ((<- getOr categories "TemplateType" .none).isText "Vm")
      let project <- referenceNameIfAny metadata "project_reference"
      pure [(<- at! status "name").toText, if single then "Single VM" else "Multi VM/Pod",
        (<- at! status "application_count").toText, project.toText,
        (<- at! status "state").toText,
        ctime (<- secondsOf (<- at! metadata "creation_time")),
        ago (<- secondsOf (<- at! metadata "last_update_time")),
        (<- at! status "uuid").toText]

def listApplications (values : ParamValues) : Build Unit := do
  let extras := if allItems values then [statesFilter "_state" applicationStates] else []
  let some entities <- readListing values (.named "ApplicationAPI" "apps")
      extras "applications" true true | return
  showEntities values entities "application" statusName
    ["NAME", "SOURCE BLUEPRINT", "STATE", "PROJECT", "OWNER", "CREATED ON", "LAST UPDATED",
     "UUID"] fun e => do
      let status <- at! e "status"
      let metadata <- at! e "metadata"
      let project <- referenceNameIfAny metadata "project_reference"
      pure [(<- at! status "name").toText,
        (<- path! status ["resources", "app_blueprint_reference", "name"]).toText,
        (<- at! status "state").toText, project.toText,
        (<- path! metadata ["owner_reference", "name"]).toText,
        ctime (<- secondsOf (<- at! metadata "creation_time")),
        ago (<- secondsOf (<- at! metadata "last_update_time")),
        (<- at! status "uuid").toText]

def listRunbooks (values : ParamValues) : Build Unit := do
  let extras := if allItems values then [statesFilter "state" runbookStates] else []
  let some entities <- readListing values (.named "RunbookAPI" "runbooks")
      extras "runbooks" false false | return
  showEntities values entities "runbook" statusName
    ["NAME", "DESCRIPTION", "PROJECT", "STATE", "EXECUTION HISTORY", "CREATED BY",
     "LAST EXECUTED AT", "LAST UPDATED", "UUID"] fun e => do
      let status <- at! e "status"
      let metadata <- at! e "metadata"
      let createdBy <- referenceName metadata "owner_reference" (.str "-")
      let lastRun <- secondsOf (<- getOr status "last_run_time" (.int 0))
      let updated <- secondsOf (<- at! metadata "last_update_time")
      let project <- referenceName metadata "project_reference" (.str "")
      let runs := (<- integerOf (<- getOr status "run_count" (.int 0))) +
        (<- integerOf (<- getOr status "running_runs" (.int 0)))
      pure [(<- at! status "name").toText, (<- at! status "description").toText,
        project.toText, (<- at! status "state").toText,
        if runs != 0 then toString runs else "-", createdBy.toText,
        if lastRun != 0 then ago lastRun else "-", ago updated,
        (<- at! status "uuid").toText]

/-- The one entity of a collection with a name; none or several are errors. -/
def findByName (r : Api.Resource) (filter : String) (kind name : String) : Build Value := do
  let outcome <- r.list (dictOf [("filter", .str filter)])
  let response <- outcome.jsonOrRaise
  let entities <- getOr response "entities" .none
  if !entities.truthy then
    throw (.failure ("No " ++ kind ++ " found with name " ++ name ++ " found"))
  let items <- iterate entities
  if items.length != 1 then
    throw (.failure ("More than one " ++ kind ++ " found - " ++ entities.toText))
  pure entities

/-- The runbook of a name, among those not deleted unless `all` is set. -/
def findRunbook (name : String) (all : Bool := false) : Build Value := do
  let filter := "name==" ++ name ++ (if all then "" else ";deleted==FALSE")
  let entities <- findByName (.named "RunbookAPI" "runbooks") filter "runbook" name
  logInfo (name ++ " found ")
  subscript entities (.int 0)

/-- The duration of a run, in its two largest units. -/
def durationText (seconds : Int) : String :=
  let hours := Int.fdiv seconds 3600
  let rem := Int.emod seconds 3600
  let minutes := Int.fdiv rem 60
  let secs := Int.emod rem 60
  if hours != 0 then toString hours ++ " hours " ++ toString minutes ++ " minutes"
  else if minutes != 0 then toString minutes ++ " minutes " ++ toString secs ++ " seconds"
  else toString secs ++ " seconds"

def listRunbookExecutions (values : ParamValues) : Build Unit := do
  let byRunbook <- match (textValue? values "name").filter (!·.isEmpty) with
    | some n => do
      let rb <- findRunbook n
      pure [";action_reference==" ++ (<- path! rb ["metadata", "uuid"]).toText]
    | none => pure []
  let given := match textValue? values "filter_by" with
    | some f => if f.isEmpty then [] else [";(" ++ f ++ ")"]
    | none => []
  let filter := joinFilter (byRunbook ++ given)
  let params := pageParams (paramValue values "limit") (paramValue values "offset") filter
  let runlogs : Api.Resource := { className := "RunbookAPI", base := Api.root ++ "/runbooks/runlogs" }
  let some res <- readPage runlogs params (cannotFetch "previous runs") | return
  let entities <- entitiesOf res
  if entities.isEmpty then return <- noneFound "runbook execution"
  printGrid ["SOURCE RUNBOOK", "STARTED AT", "ENDED AT", "COMPLETED IN", "EXECUTED BY", "UUID",
    "STATE"] (<- entities.mapM fun e => do
      let status <- at! e "status"
      let metadata <- at! e "metadata"
      let state <- at! status "state"
      let started <- secondsOf (<- at! metadata "creation_time")
      let updated <- secondsOf (<- at! metadata "last_update_time")
      let finished := finishedRunStates.any (state.isText ·)
      pure [(<- path! status ["action_reference", "name"]).toText, ctime started,
        if finished then ago updated else "-",
        if finished then durationText (updated - started) else "-",
        (<- path! status ["userdata_reference", "name"]).toText,
        (<- at! metadata "uuid").toText, state.toText])

def listEndpoints (values : ParamValues) : Build Unit := do
  let extras := if allItems values then [statesFilter "_state" runbookStates] else []
  let some entities <- readListing values (.named "EndpointAPI" "endpoints")
      extras "endpoints" false false | return
  showEntities values entities "endpoint" statusName
    ["NAME", "TYPE", "DESCRIPTION", "PROJECT", "STATE", "CREATED BY", "LAST UPDATED", "UUID"]
    fun e => do
      let status <- at! e "status"
      let metadata <- at! e "metadata"
      let createdBy <- referenceName metadata "owner_reference" (.str "")
      let updated <- secondsOf (<- at! metadata "last_update_time")
      let project <- referenceNameIfAny metadata "project_reference"
      pure [(<- at! status "name").toText, (<- at! status "type").toText,
        (<- at! status "description").toText, project.toText,
        (<- at! status "state").toText, createdBy.toText, ago updated,
        (<- at! status "uuid").toText]

def listAppIcons (values : ParamValues) : Build Unit := do
  let name := (textValue? values "name").filter (!·.isEmpty)
  let params := pageParams (paramValue values "limit") (paramValue values "offset")
    (match name with
      | some n => nameQuery [n]
      | none => "")
  let icons := Api.Resource.named "AppIconAPI" "app_icons"
  let .dict map <- icons.nameUuidMap params | return
  if flagValue values "quiet" then
    for (n, _) in map do print (n.toText ++ "\n")
    return
  let marketplace := flagValue values "marketplace_use"
  let headers := ["NAME", "UUID"] ++ (if marketplace then ["IS_MARKETPLACE_ICON"] else [])
  let rows <- map.mapM fun (n, uuid) => do
    if !marketplace then return [n.toText, uuid.toText]
    let endpoint := icons.base ++ "/" ++ uuid.toText ++ "/is_marketplaceicon"
    let outcome <- send { method := .get, endpoint }
    if let some err := outcome.error then
      exitWith ("[" ++ (<- at! err "code").toText ++ "] - " ++
        (<- at! err "error").toText)
    pure [n.toText, uuid.toText, (<- at! (<- outcome.json) "is_marketplaceicon").toText]
  printGrid headers rows

/-- An instant that the server writes in ISO form. -/
def isoInstant (v : Value) : Build Int :=
  match isoSeconds? v.toText with
  | some t => pure t
  | none => throw (.system "ParserError" ("Could not match input to any of " ++
      "['YYYY-MM-DDTHH:mm:ssZZ'] on '" ++ v.toText ++ "'"))

def listProjects (values : ParamValues) : Build Unit := do
  let _ <- serverSettings
  let some entities <- readListing values (.named "ProjectAPI" "projects")
      [] "projects" true true | return
  showEntities values entities "project" statusName
    ["NAME", "STATE", "OWNER", "USER COUNT", "CREATED ON", "LAST UPDATED", "UUID"] fun e => do
      let status <- at! e "status"
      let metadata <- at! e "metadata"
      let created <- isoInstant (<- at! metadata "creation_time")
      let updated <- isoInstant (<- at! metadata "last_update_time")
      let owner <- referenceNameIfAny metadata "owner_reference"
      let owner := if owner.isNone then "-" else owner.toText
      let users <- iterate (<- path! status ["resources", "user_reference_list"])
      pure [(<- at! status "name").toText, (<- at! status "state").toText, owner,
        toString users.length, ctime created, ago updated,
        (<- at! metadata "uuid").toText]

/-- The project of a name, read in full from the server. -/
def fetchProject (name : String) : Build Value := do
  let projects := .named "ProjectAPI" "projects"
  logInfo ("Searching for the project " ++ name)
  let entities <- findByName projects ("name==" ++ name) "project" name
  logInfo ("Project " ++ name ++ " found ")
  let project <- subscript entities (.int 0)
  let uuid <- path! project ["metadata", "uuid"]
  logInfo ("Fetching details of project " ++ name)
  (<- projects.read uuid).jsonOrRaise

def listEnvironments (values : ParamValues) : Build Unit := do
  let byProject <- match (textValue? values "project_name").filter (!·.isEmpty) with
    | some p => do
      let project <- fetchProject p
      pure [";project_reference==" ++ (<- path! project ["metadata", "uuid"]).toText]
    | none => pure []
  let some entities <- readListing values (.named "EnvironmentAPI" "environments")
      byProject "environments" false true | return
  showEntities values entities "environment" statusName
    ["NAME", "PROJECT", "STATE", "CREATED ON", "LAST UPDATED", "UUID"] fun e => do
      let status <- at! e "status"
      let metadata <- at! e "metadata"
      let project <- referenceNameIfAny metadata "project_reference"
      pure [(<- at! status "name").toText, project.toText, (<- at! status "state").toText,
        ctime (<- secondsOf (<- at! metadata "creation_time")),
        ago (<- secondsOf (<- at! metadata "last_update_time")),
        (<- getOr status "uuid" (.str "")).toText]

def listRoles (values : ParamValues) : Build Unit := do
  let _ <- serverSettings
  let some entities <- readListing values (.named "RoleAPI" "roles")
      [] "roles" true true | return
  showEntities values entities "role" statusName ["NAME", "STATE", "UUID"] fun e => do
    let status <- at! e "status"
    pure [(<- at! status "name").toText, (<- at! status "state").toText,
      (<- path! e ["metadata", "uuid"]).toText]

def listAccounts (values : ParamValues) : Build Unit := do
  let version := (<- get).version
  let types := match paramValue values "account_type" with
    | .list ts => ts.map (·.toText)
    | .tuple ts => ts.map (·.toText)
    | _ => []
  let extras := (if types.isEmpty then [] else [";(type==" ++ ",type==".intercalate types ++ ")"]) ++
    (if allItems values then [statesFilter "state" accountStates] else []) ++
    (if !versionLt version "2.9.0" then [";type!=nutanix"] else [])
  let some entities <- readListing values (.named "AccountsAPI" "accounts")
      extras "accounts" true false | return
  showEntities values entities "account" statusName
    ["NAME", "ACCOUNT TYPE", "STATE", "OWNER", "CREATED ON", "LAST UPDATED", "UUID"] fun e => do
      let status <- at! e "status"
      let metadata <- at! e "metadata"
      let owner <- referenceNameIfAny metadata "owner_reference"
      let owner := if owner.isNone then "-" else owner.toText
      pure [(<- at! status "name").toText, (<- path! status ["resources", "type"]).toText,
        (<- path! status ["resources", "state"]).toText, owner,
        ctime (<- secondsOf (<- at! metadata "creation_time")),
        ago (<- secondsOf (<- at! metadata "last_update_time")),
        (<- at! metadata "uuid").toText]

def listJobs (values : ParamValues) : Build Unit := do
  let extras := if allItems values then [statesFilter "state" jobStates] else []
  let some res <- readPage (.named "JobAPI" "jobs")
      (listingParams values extras) (logWarning "Cannot fetch jobs.") | return
  let entities <- getOr res "entities" (.str "")
  if !entities.truthy then return <- noneFound "jobs"
  let entities <- iterate entities
  let nameOf (e : Value) : Build Value := path! e ["resources", "name"]
  if flagValue values "quiet" then return <- printNames entities nameOf
  printGrid ["NAME", "PROJECT", "STATE", "TYPE", "CREATED BY", "LAST UPDATED", "UUID"]
    (<- entities.mapM fun e => do
      let resources <- at! e "resources"
      let metadata <- at! e "metadata"
      let createdBy <- referenceName metadata "owner_reference" (.str "-")
      let updated <- secondsOf (<- at! metadata "last_update_time")
      let project <- referenceName metadata "project_reference" (.str "")
      pure [(<- at! resources "name").toText, project.toText,
        (<- at! resources "state").toText, (<- at! resources "type").toText,
        createdBy.toText, ago updated, (<- at! metadata "uuid").toText])

def listLibraryTasks (values : ParamValues) : Build Unit := do
  let _ <- serverSettings
  let extras := if allItems values then [statesFilter "state" taskStates] else []
  let some entities <- readListing values (.named "TaskLibraryApi" "app_tasks")
      extras "tasks" false false | return
  showEntities values entities "tasks" statusName
    ["NAME", "DESCRIPTION", "PROJECT", "STATE", "TASK TYPE", "SCRIPT TYPE", "CREATED BY",
     "LAST UPDATED", "UUID"] fun e => do
      let status <- at! e "status"
      let metadata <- at! e "metadata"
      let createdBy <- referenceName metadata "owner_reference" (.str "-")
      let updated <- secondsOf (<- at! metadata "last_update_time")
      let projects <- iterate (<- path! status ["resources", "project_reference_list"])
      let projectNames <- projects.mapM fun p => do pure (<- at! p "name").toText
      let resources <- getOr status "resources" (.dict [])
      let attrs <- getOr resources "attrs" (.dict [])
      pure [(<- at! status "name").toText, (<- at! status "description").toText,
        ",".intercalate projectNames, (<- at! status "state").toText,
        (<- path! status ["resources", "type"]).toText,
        (<- getOr attrs "script_type" (.str "")).toText, createdBy.toText, ago updated,
        (<- at! metadata "uuid").toText]

def listUsers (values : ParamValues) : Build Unit := do
  let some entities <- readListing values (.named "UserAPI" "users")
      [] "users" true true | return
  showEntities values entities "user" statusName
    ["NAME", "DISPLAY NAME", "TYPE", "STATE", "UUID"] fun e => do
      let status <- at! e "status"
      let resources <- at! status "resources"
      pure [(<- at! status "name").toText, (<- getOr resources "display_name" (.str "")).toText,
        (<- at! resources "user_type").toText, (<- at! status "state").toText,
        (<- path! e ["metadata", "uuid"]).toText]

/-- The distinguished name of a user group: as its specification writes it, which keeps the
    letter case, or else as its status does. -/
def groupName (e : Value) : Build Value := do
  let fromStatus <- path! e ["status", "resources", "directory_service_user_group",
    "distinguished_name"]
  tryCatch (path! e ["spec", "resources", "directory_service_user_group",
    "distinguished_name"]) fun _ => pure fromStatus

def listGroups (values : ParamValues) : Build Unit := do
  let some entities <- readListing values (.named "UserGroupAPI" "user_groups")
      [] "groups" true true | return
  showEntities values entities "group" groupName
    ["NAME", "DISPLAY NAME", "TYPE", "STATE", "UUID"] fun e => do
      let status <- at! e "status"
      let resources <- at! status "resources"
      let name <- groupName e
      pure [name.toText, (<- getOr resources "display_name" (.str "")).toText,
        (<- at! resources "user_group_type").toText, (<- at! status "state").toText,
        (<- path! e ["metadata", "uuid"]).toText]

def listDirectoryServices (values : ParamValues) : Build Unit := do
  let some entities <- readListing values (.named "DirectoryServiceAPI" "directory_services")
      [] "directory_services" true true | return
  showEntities values entities "directory service" statusName
    ["NAME", "DIRECTORY TYPE", "DOMAIN NAME", "URL", "STATE", "UUID"] fun e => do
      let status <- at! e "status"
      let resources <- at! status "resources"
      pure [(<- at! status "name").toText, (<- at! resources "directory_type").toText,
        (<- at! resources "domain_name").toText, (<- at! resources "url").toText,
        (<- at! status "state").toText, (<- path! e ["metadata", "uuid"]).toText]

def serverStatus : Build Unit := do
  logInfo "Checking if Calm is enabled on Server"
  let settings <- serverSettings
  let outcome <- (Api.Resource.named "ResourceAPI" "services/nucalm/status").read .none
  if let some err := outcome.error then
    print "[Fail]\n"
    raiseError err
  let state <- at! (<- outcome.json) "service_enablement_status"
  let version <- send { method := .get, endpoint := "apps/version" }
  let versionText <- match version.response with
    | some r => pure r.text
    | none => throw (.missingAttribute "'NoneType' object has no attribute 'content'")
  logInfo state.toText
  logInfo ("Server URL: https://" ++ settings.serverValue "pc_ip" ++ ":" ++
    settings.serverValue "pc_port" ++ "/")
  logInfo ("Calm Version: " ++ versionText)
  let endpoint := "PrismGateway/services/rest/v1/cluster/version"
  let warning := "Could not get PC Version"
  let pc <- send { method := .get, endpoint, ignoreError := true, warning }
  if pc.error.isNone then
    logInfo ("PC Version: " ++ (<- at! (<- pc.json) "version").toText)

end Blueprints.Cli
