import Blueprints.Cli.Marketplace.Review
import Blueprints.Cli.Launch
import Blueprints.Cli.Decompiling

namespace Blueprints.Cli

open Library Http Api Build Text Kinds

/-- The version given, or else the newest one of the item among some states, logged. -/
def versionOrLatest (version : Value) (what name : String) (source : Option String)
    (states : List String) (kind : String) : Build Value := do
  if version.truthy then return version
  logInfo ("Fetching latest version of " ++ what ++ " " ++ name ++ " ")
  let v <- latestVersion name source states (some kind)
  logInfo v.toText
  pure v

/-- Makes sure the marketplace has an item of a name and type. -/
def ensureItemNamed (name kind : String) : Build Unit := do
  let map <- marketplaceItems.nameUuidMap
    (dictOf [("filter", .str ("name==" ++ name ++ ";type==" ++ kind))])
  if !map.truthy then exitWith ("No marketplace " ++ kind ++ " found with name " ++ name)

/-- The project to use: the one given, or else the default one, which is looked up in any
    case. -/
def projectToUse (given : Option String) : Build String := do
  let configured <- contextProject
  pure ((given.filter (!·.isEmpty)).getD configured)

/-- A project read in full and the environment of a name in it, when one is given. -/
def projectWithEnvironment (projectName : String) (environment : Option String) :
    Build (Value × Option Value) := do
  let project <- fetchProject projectName
  match environment.filter (!·.isEmpty) with
  | some e => pure (project, some (<- environmentOfProject project e))
  | none =>
    let _ <- path! project ["metadata", "uuid"]
    let _ <- path! project ["status", "name"]
    for row in <- iterate (<- path! project ["status", "resources", "environment_reference_list"]) do
      let _ <- at! row "uuid"
    pure (project, none)

/-- The blueprint that the server makes from an item of a name and version that holds a
    blueprint, for a project and an environment of it. -/
def itemBlueprint (name : String) (version : Value) (projectName environment source : Option String) :
    Build Value := do
  let projectName <- projectToUse projectName
  let (project, chosen) <- projectWithEnvironment projectName environment
  let projectUuid <- path! project ["metadata", "uuid"]
  let resources <- path! project ["status", "resources"]
  let environments <- at! resources "environment_reference_list"
  if !environments.truthy then
    exitWith ("No environment registered to project '" ++ projectName ++ "'")
  let fallback <- getOr (<- getOr resources "default_environment_reference" emptyDict) "uuid" .none
  let fallback <- if fallback.truthy then pure fallback
    else at! (<- subscript environments (.int 0)) "uuid"
  let envUuid <- match chosen with
    | some env => path! env ["metadata", "uuid"]
    | none => pure fallback
  logInfo "Fetching MPI details"
  let item <- itemOfVersion name version ["ACCEPTED", "PUBLISHED", "PENDING"] source (some "blueprint")
  let itemResources <- path! item ["status", "resources"]
  if (<- at! itemResources "app_state").isText "PUBLISHED" then
    let shared <- getOr itemResources "project_reference_list" (.list [])
    let names <- (<- iterate shared).mapM (at! · "name")
    if !names.any (·.isText projectName) then
      exitWith ("Project " ++ projectName ++ " is not shared with marketplace item " ++ name ++
        " with version " ++ version.toText)
  let spec <- path! item ["spec", "resources", "app_blueprint_template", "spec"]
  let (_, spec) <- pop spec "name"
  let spec <- setKey spec "environment_uuid" envUuid
  let spec <- setKey spec "app_blueprint_name" (.str ("Mpi-Bp-" ++ name ++ "-" ++ (<- Build.freshTail)))
  let categories <- getOr (<- at! item "metadata") "categories" emptyDict
  let payload := dictOf [("spec", spec),
    ("metadata", dictOf [("kind", .str "blueprint"),
      ("project_reference", dictOf [("kind", .str "project"), ("uuid", projectUuid)]),
      ("categories", categories)]),
    ("api_version", .str "3.0")]
  logInfo "Creating MPI blueprint"
  let bp <- (<- postAt (blueprints.base ++ "/marketplace_launch") payload).jsonOrExit
  let (_, bpSpec) <- pop (<- at! bp "spec") "environment_uuid"
  let bp <- setKey bp "spec" bpSpec
  let state <- path! bp ["status", "state"]
  if !state.isText "ACTIVE" then exitWith ("Blueprint went to " ++ state.toText ++ " state")
  pure bp

/-- How an item is launched: where, as what application, and how its runtime values are had. -/
structure ItemLaunch where
  project : Option String := none
  environment : Option String := none
  appName : Option String := none
  profile : Option String := none
  editable : Bool := true
  source : Option String := none
  paramsFile : Option String := none
  watch : Bool := false
  interval : Int := 10

/-- Launches an item that holds a blueprint as a new application, named after the item with a
    fresh tail unless a name is given. -/
def launchItemBlueprint (r : Runtime) (name : String) (version : Value) (req : ItemLaunch) :
    Build Unit := do
  logInfo "Converting MPI to blueprint"
  let bp <- itemBlueprint name version req.project req.environment req.source
  let appName <- match req.appName.filter (!·.isEmpty) with
    | some a => pure a
    | none => do pure ("Mpi-App-" ++ name ++ "-" ++ (<- Build.freshTail))
  launchBlueprint r "" (some bp)
    { appName, profile := req.profile, editable := req.editable, paramsFile := req.paramsFile }
  logInfo ("App " ++ appName ++ " creation is successful")
  if req.watch then
    watchAppRuns (<- findApp appName) (.str appName) false req.interval
    logInfo ("Action runs completed for app " ++ appName)

/-- The launch that the options of a launch command ask for. -/
def itemLaunchOf (values : ParamValues) : ItemLaunch :=
  { project := textValue? values "project", environment := textValue? values "environment",
    appName := textValue? values "app_name", profile := textValue? values "profile_name",
    editable := !flagValue values "ignore_runtime_variables",
    source := textValue? values "source", paramsFile := textValue? values "launch_params",
    watch := flagValue values "watch", interval := pollInterval values }

/-- `launch marketplace bp`: an item of the manager, accepted, published or pending. -/
def launchManagerBlueprint (r : Runtime) (values : ParamValues) : Build Unit := do
  let _ <- serverSettings
  let name := textValue values "name"
  let req := itemLaunchOf values
  let version <- versionOrLatest (versionValue values) "Marketplace Blueprint" name req.source
    ["ACCEPTED", "PUBLISHED", "PENDING"] "blueprint"
  launchItemBlueprint r name version req

/-- `launch marketplace item`: a published item of the store. -/
def launchStoreBlueprint (r : Runtime) (values : ParamValues) : Build Unit := do
  let _ <- serverSettings
  let name := textValue values "name"
  let req := itemLaunchOf values
  if <- serverAtLeast "3.2.0" then ensureItemNamed name "blueprint"
  let version <- versionOrLatest (versionValue values) "Marketplace Item" name req.source
    ["PUBLISHED"] "blueprint"
  launchItemBlueprint r name version req

/-- `decompile marketplace bp`: the blueprint made from an item, read back into the blueprint
    language in the given directory, or else in one named after the blueprint, or after the item
    and its version. -/
def decompileItemBlueprint (r : Runtime) (values : ParamValues) : Build Unit := do
  let _ <- serverSettings
  let name := textValue values "mpi_name"
  let bpName := (textValue? values "name").filter (!·.isEmpty)
  let version <- versionOrLatest (versionValue values) "Marketplace Blueprint" name none []
    "blueprint"
  logInfo "Converting MPI into blueprint"
  let made <- itemBlueprint name version (textValue? values "project") none none
  let (_, made) <- pop made "status"
  let uuid <- path! made ["metadata", "uuid"]
  let payload <- (<- getAt (blueprints.item uuid ++ "/export_file")).jsonOrExit
  let resources <- path! payload ["spec", "resources"]
  let className <- Decompile.identifierOf (.str (bpName.getD name))
  let dir <- match (textValue? values "bp_dir").filter (!·.isEmpty) with
    | some d => pure d
    | none => do
      let suffix := bpName.getD ("mpi_bp_" ++ className.toText ++ "_v" ++ version.toText)
      pure (joinPath workingDirMarker suffix)
  let description <- getOr (<- at! payload "spec") "description" (.str "")
  logInfo ("Decompiling marketplace blueprint " ++ name)
  checkSubstrates resources
  let cls <- Decompile.decompile r .blueprint resources
  let cls := Entity.mk cls.kind className.toText (some description.toText) cls.attrs cls.bases
  writeBlueprintDir r cls none dir (flagValue values "with_secrets")
  reportDecompiled dir

/-- The endpoints of a runbook's item chosen for a run: a default target, and an endpoint of the
    project for each task that targets one, each asked for by the description of the endpoint it
    replaces. An item published with its endpoints keeps them. -/
def chooseEndpoints (item payload : Value) : Build Value := do
  let info <- getOr (<- path! item ["status", "resources"]) "runbook_template_info" emptyDict
  let template <- getOr info "runbook_template" emptyDict
  if (<- getOr info "is_published_with_endpoints" (.bool false)).truthy then return payload
  let mut payload := payload
  let target <- inputLine "Default target for execution of Marketplace Runbook:"
  if !target.isEmpty then
    let endpoint <- endpointNamed target
    let uuid <- getOr (<- getOr endpoint "metadata" emptyDict) "uuid" (.str "")
    payload <- setPath payload ["spec", "resources", "default_target_reference"]
      (dictOf [("kind", .str "app_endpoint"), ("uuid", uuid), ("name", .str target)])
  let resources <- path! template ["spec", "resources"]
  let mut used : List Value := []
  for task in <- iterate (<- path! resources ["runbook", "task_definition_list"]) do
    let targetName <- getOr (<- getOr task "target_any_local_reference" emptyDict) "name" (.str "")
    if targetName.truthy then used := used ++ [targetName]
  let mut descriptions : List (Value × Value) := []
  for info in <- iterate (<- getOr resources "endpoints_information" (.list [])) do
    let epName <- getOr (<- getOr info "endpoint_reference" emptyDict) "name" (.str "")
    let description <- getOr info "description" (.str "")
    if epName.truthy && description.truthy then descriptions := putValue descriptions epName description
  if !used.isEmpty then
    logInfo ("Please select an endpoint belonging to the selected project for every " ++
      "endpoint used in the marketplace              /item.")
  let mut mapping : List (Value × Value) := []
  for endpointName in used do
    let shown := (lookupValue descriptions endpointName).getD endpointName
    let selected <- inputLine (shown.toText ++ ":")
    if !selected.isEmpty then
      let endpoint <- endpointNamed selected
      let uuid <- getOr (<- getOr endpoint "metadata" emptyDict) "uuid" (.str "")
      mapping := putValue mapping endpointName uuid
  setPath payload ["spec", "resources", "endpoints_mapping"] (.dict mapping)

/-- The values of the editable variables of a runbook's item asked for a run; an empty answer
    keeps the runbook's value. -/
def askItemVariables (item payload : Value) : Build Value := do
  let info <- getOr (<- path! item ["status", "resources"]) "runbook_template_info" emptyDict
  let template <- getOr info "runbook_template" emptyDict
  let varList <- getOr (<- path! template ["spec", "resources", "runbook"]) "variable_list" (.list [])
  let mut args <- getOr (<- getOr (<- getOr payload "spec" emptyDict) "resources" emptyDict) "args"
    (.list [])
  for entry in <- iterate varList do
    if (<- getOr (<- getOr entry "editables" emptyDict) "value" (.bool false)).truthy then
      let name <- getOr entry "name" .none
      let value <- getOr entry "value" (.str "")
      let given <- inputLine ("Value for Variable " ++ name.toText ++ " in Runbook (default value=" ++
        value.toText ++ "): ")
      if !given.isEmpty then
        args <- appendValue args (dictOf [("name", name), ("value", <- convertLike value (.str given))])
  setPath payload ["spec", "resources", "args"] args

/-- Runs an item of a name that holds a runbook, in a project. -/
def runItemRunbook (name : String) (version : Value) (projectName source : Option String)
    (ignoreVariables watch : Bool) (states : List String) : Build Unit := do
  let _ <- serverSettings
  ensureItemNamed name "runbook"
  let states := if states.isEmpty then ["ACCEPTED", "PUBLISHED", "PENDING"] else states
  let version <- versionOrLatest version "Marketplace Runbook" name source states "runbook"
  let projectName <- projectToUse projectName
  let project <- fetchProject projectName
  let projectUuid <- path! project ["metadata", "uuid"]
  logInfo "Fetching MPI details"
  let item <- itemOfVersion name version states source (some "runbook")
  if !(<- path! item ["status", "resources", "type"]).isText "runbook" then
    logError "Selected marketplace item is not of type runbook"
    return
  let itemUuid <- path! item ["metadata", "uuid"]
  let mut payload := dictOf [("api_version", .str "3.0"),
    ("metadata", dictOf [("kind", .str "runbook"),
      ("project_reference", dictOf [("uuid", projectUuid), ("kind", .str "project")])]),
    ("spec", dictOf [("resources", dictOf [("args", .list []),
      ("marketplace_reference", dictOf [("kind", .str "marketplace_item"), ("uuid", itemUuid)])])])]
  payload <- chooseEndpoints item payload
  if !ignoreVariables then payload <- askItemVariables item payload
  followRun (<- postAt (runbooks.base ++ "/marketplace_execute") payload) watch

/-- `run marketplace runbook`: an item of the manager, accepted, published or pending. -/
def runManagerRunbook (values : ParamValues) : Build Unit :=
  runItemRunbook (textValue values "name") (versionValue values) (textValue? values "project")
    (textValue? values "source") (flagValue values "ignore_runtime_variables")
    (flagValue values "watch") []

/-- `run marketplace item`: a published item of the store. -/
def runStoreRunbook (values : ParamValues) : Build Unit :=
  runItemRunbook (textValue values "name") (versionValue values) (textValue? values "project")
    (textValue? values "source") (flagValue values "ignore_runtime_variables")
    (flagValue values "watch") ["PUBLISHED"]

end Blueprints.Cli
