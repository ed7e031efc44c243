import Blueprints.Cli.ProviderSpecs
import Blueprints.Store.Entry

namespace Blueprints.Cli

open Library Http Api Build Text CacheSync

/-- The full records of projects, with their users, groups and policies. -/
def projectDetails : Resource := Resource.named "ProjectInternalAPI" "projects_internal"

def directoryUsers : Resource := Resource.named "UserAPI" "users"

def userGroups : Resource := Resource.named "UserGroupAPI" "user_groups"

def environments : Resource := Resource.named "EnvironmentAPI" "environments"

def textSet (texts : List String) : String :=
  if texts.isEmpty then "set()" else "\x7b" ++ ", ".intercalate (texts.map quoted) ++ "\x7d"

/-- The texts of the first list, once each, that the second does not hold. -/
def missingFrom (wanted known : List String) : List String :=
  wanted.eraseDups.filter (!known.contains ·)

/-- The texts of the first list, once each, that the second holds too. -/
def sharedWith (first second : List String) : List String :=
  first.eraseDups.filter (second.contains ·)

/-- The values of the first list, once each, that the second does not hold. -/
def valuesMissingFrom (wanted known : List Value) : List Value :=
  let once := wanted.foldl (fun acc v => if acc.any (·.equal v) then acc else acc ++ [v]) []
  once.filter fun v => !known.any (·.equal v)

/-- The names of the references of a list that a record may hold. -/
def referenceNames (record : Value) (key : String) : Build (List String) := do
  let mut names := []
  for r in <- iterate (<- getOr record key (.list [])) do
    names := names ++ [(<- at! r "name").toText]
  pure names

/-- The uuids of the references of some lists that a record may hold, list after list. -/
def referenceUuids (record : Value) (keys : List String) : Build (List Value) := do
  let mut uuids := []
  for key in keys do
    for r in <- iterate (<- getOr record key (.list [])) do
      uuids := uuids ++ [<- at! r "uuid"]
  pure uuids

/-- A payload with an entry of its spec's resources set. -/
def setResource (payload : Value) (key : String) (v : Value) : Build Value := do
  let spec <- at! payload "spec"
  setKey payload "spec" (<- setKey spec "resources" (<- setKey (<- at! spec "resources") key v))

/-- The uuid of a project of a name among the first thousand projects of the server; a name
    that no project has ends the command. -/
def projectUuidNamed (name : String) : Build Value := do
  logInfo ("Fetching project '" ++ name ++ "' details")
  let map <- projects.nameUuidMap (dictOf [("length", .int 1000),
    ("filter", .str ("name==" ++ name))])
  let uuid <- getOr map name (.str "")
  if !uuid.truthy then exitWith ("Project " ++ name ++ " not found.")
  pure uuid

/-- A project of the server read in full; a failure is logged and ends the command. -/
def readProject (uuid : Value) : Build Value := do
  let outcome <- projects.read uuid
  outcome.exitOnErrorText
  outcome.json

/-- A project of the server read in full by its uuid; a failure is raised. -/
def projectById (uuid : Value) : Build Value := do
  logInfo ("Fetching details of project (uuid='" ++ uuid.toText ++ "')")
  (<- projects.read uuid).jsonOrRaise

/-- Whether a list-valued parameter holds any item. -/
def hasItems (values : ParamValues) (key : String) : Bool :=
  match values.lookup key with
  | some v => v.truthy
  | none => false

/-- The states in which a task of a project has ended. -/
def projectTaskEnded : List String := ["aborted", "success", "failure"]

/-- The states of a task of a project that count as its failure. -/
def projectTaskFailed : List String := ["aborted", "waiting", "failure"]

/-- Whether a state is one of some states. -/
def stateAmong (state : Value) (states : List String) : Bool :=
  states.any fun s => state.equal (.str s)

/-- Whether a watched task failed; a task that never ended did not. -/
def failedProjectTask : Option Value -> Bool
  | some state => stateAmong state projectTaskFailed
  | none => false

/-- The text of the state of a watched task. -/
def taskStateText : Option Value -> String
  | some state => state.toText
  | none => "None"

/-- Watches a task of a project, polling its state up to ten times, and answers the state it
    ended in; the messages of a task that ended otherwise than in success are logged. A task
    still running after the last poll is left with a message. -/
def watchProjectTask (projectUuid taskUuid : Value) : Build (Option Value) := do
  for _ in List.range 10 do
    logInfo ("Fetching status of project task (uuid=" ++ taskUuid.toText ++ ")")
    let outcome <- getAt (calmProjectPath projectUuid ++ "/pending_tasks/" ++ seg taskUuid)
    if let some err := outcome.error then raiseError err
    let status <- at! (<- outcome.json) "status"
    let state <- at! status "state"
    logInfo state.toText
    if stateAmong state projectTaskEnded then
      let messages <- getOr status "message_list" .none
      if !state.equal (.str "success") && messages.truthy then logError messages.toText
      return some state
  logInfo "Task couldn't reached to terminal state in 40 seconds. Exiting..."
  return none

/-- The name, uuid and execution context of a project that the server answered with. -/
def projectSummary (project : Value) : Build Value := do
  pure (dictOf [("name", <- path! project ["spec", "name"]),
    ("uuid", <- path! project ["metadata", "uuid"]),
    ("execution_context", <- path! project ["status", "execution_context"])])

/-- Replaces a project on the server, writes what it answered and watches the task of the
    change under the uuid given, or under the one answered; a failed task ends the command. -/
def putProject (uuid payload : Value) (watchAnswered : Bool) : Build Unit := do
  let outcome <- projects.update uuid payload
  outcome.exitOnErrorText
  let res <- outcome.json
  printJson (<- projectSummary res)
  logInfo "Polling on project updation task"
  let watched <- if watchAnswered then path! res ["metadata", "uuid"] else pure uuid
  let state <- watchProjectTask watched (<- path! res ["status", "execution_context", "task_uuid"])
  if failedProjectTask state then
    exitWith ("Project updation task went to " ++ taskStateText state ++ " state")

/-- Replaces a project on the server by a record without its status. -/
def submitProject (uuid payload : Value) : Build Unit := do
  let (_, payload) <- popOr payload "status" .none
  putProject uuid payload true

/-- Adds environments to a project of a name and takes others out of it. -/
def changeProjectEnvironments (projectName : String) (removed added : List Value) :
    Build Unit := do
  if removed.isEmpty && added.isEmpty then return
  let (_, project) <- popOr (<- fetchProject projectName) "status" .none
  let listed <- getOr (<- path! project ["spec", "resources"]) "environment_reference_list"
    (.list [])
  let envs := (<- iterate listed) ++
    added.map fun u => dictOf [("kind", .str "environment"), ("uuid", u)]
  let kept <- envs.filterM fun e => do
    let uuid <- at! e "uuid"
    pure !(removed.any (·.equal uuid))
  let project <- setResource project "environment_reference_list" (.list kept)
  submitProject (<- path! project ["metadata", "uuid"]) project

/-- Creates an environment from its payload; answers its name and uuid. A failure ends the
    command. -/
def submitEnvironment (payload : Value) : Build (Value × Value) := do
  let (_, payload) <- popOr payload "status" .none
  let name <- path! payload ["spec", "name"]
  logInfo ("Creating environment '" ++ name.toText ++ "'")
  let outcome <- environments.create payload
  outcome.exitOnErrorText
  let res <- outcome.json
  let uuid <- path! res ["metadata", "uuid"]
  let state <- path! res ["status", "state"]
  logInfo ("Environment '" ++ name.toText ++ "' created successfully. Environment " ++
    "state: '" ++ state.toText ++ "'")
  pure (name, uuid)

/-- The counts of a usage that are not zero, the counts of blueprints inside theirs; answers
    whether any entity uses the account or subnet. Each count kept moves to the end, as it is
    taken out and put back. -/
def usedEntities (usage : Value) : Build (Bool × Value) := do
  let mut used := false
  let (apps, rest) <- popOr usage "app" (.int 0)
  let mut usage := rest
  if apps.truthy then
    used := true
    usage <- setKey usage "app" apps
  let blueprints <- getOr usage "blueprint" emptyDict
  let (brownfield, bps) <- popOr blueprints "brownfield" (.int 0)
  let (greenfield, bps) <- popOr bps "greenfield" (.int 0)
  if brownfield.truthy || greenfield.truthy then
    used := true
    let mut bps := bps
    if brownfield.truthy then bps <- setKey bps "brownfield" brownfield
    if greenfield.truthy then bps <- setKey bps "greenfield" greenfield
    usage <- setKey usage "blueprint" bps
  else
    let (_, rest) <- popOr usage "blueprint" .none
    usage := rest
  for kind in ["endpoint", "environment", "runbook"] do
    let (count, rest) <- popOr usage kind (.int 0)
    usage := rest
    if count.truthy then
      used := true
      usage <- setKey usage kind count
  pure (used, usage)

/-- The name and uuid that the cache holds for a used account or subnet. -/
def cachedNameAndUuid (noun uuid : String) : Build (String × String) := do
  let cache := (<- get).cache
  let row := if noun == "account" then (cache.accountById? uuid).map fun a => (a.name, a.uuid)
    else (cache.subnetById? uuid).map fun s => (s.name, s.uuid)
  match row with
  | some r => pure r
  | none => throw (.missingKey "'name'")

/-- Asks the server what still uses the accounts and subnets that a project loses. When
    anything does, the command ends with a line per account or subnet and the usage that the
    server gave, its zero counts left out. -/
def checkProjectUsage (uuid filter : Value) : Build Unit := do
  logInfo "Checking project usage"
  let outcome <- postAt (calmProjectPath uuid ++ "/usage") (dictOf [("filter", filter)])
  outcome.exitOnErrorText
  let mut resources <- path! (<- outcome.json) ["status", "resources"]
  let mut messages : List String := []
  for (key, noun) in [("account_list", "account"), ("subnet_list", "subnet")] do
    let mut changed : List Value := []
    for item in <- iterate (<- getOr resources key (.list [])) do
      let (used, counts) <- usedEntities (<- at! item "usage")
      changed := changed ++ [<- setKey item "usage" counts]
      if used then
        let (name, u) <- cachedNameAndUuid noun (<- at! item "uuid").toText
        messages := messages ++ ["Please disassociate the " ++ noun ++ " '" ++ name ++
          "' (uuid='" ++ u ++ "') references from existing entities"]
    if <- compareValues .mem (.str key) resources then
      resources <- setKey resources key (.list changed)
  if !messages.isEmpty then
    logError "Project updation failed"
    echo ("\n".intercalate messages)
    printJson resources
    throw (.exit "-1")

/-- Takes users and groups out of the access control policies of a project, each policy marked
    as changed, and watches the task of the change. -/
def removeFromProjectPolicies (uuid : Value) (users groups : List String) : Build Unit := do
  let outcome <- projectDetails.read uuid
  outcome.exitOnErrorText
  let (_, record) <- popOr (<- outcome.json) "status" .none
  let spec <- at! record "spec"
  let named (names : List String) (ref : Value) : Build Bool := do
    let name <- at! ref "name"
    pure !(names.any fun n => name.equal (.str n))
  let mut changed : List Value := []
  for policy in <- iterate (<- getOr spec "access_control_policy_list" (.list [])) do
    let policy <- setKey policy "operation" (.str "UPDATE")
    let acp <- at! policy "acp"
    let res <- at! acp "resources"
    let keptUsers <- (<- iterate (<- getOr res "user_reference_list" (.list []))).filterM
      (named users)
    let keptGroups <- (<- iterate (<- getOr res "user_group_reference_list" (.list []))).filterM
      (named groups)
    let res <- setKey res "user_reference_list" (.list keptUsers)
    let res <- setKey res "user_group_reference_list" (.list keptGroups)
    changed := changed ++ [<- setKey policy "acp" (<- setKey acp "resources" res)]
  let record <- if <- compareValues .mem (.str "access_control_policy_list") spec then
      setKey record "spec" (<- setKey spec "access_control_policy_list" (.list changed))
    else pure record
  let outcome <- projectDetails.update uuid record
  outcome.exitOnErrorText
  let res <- outcome.json
  logInfo "Polling on task for updating project ACPS"
  let _ <- watchProjectTask uuid (<- path! res ["status", "execution_context", "task_uuid"])

/-- Replaces a project by its changed record: the usage of what it loses is checked, the
    change is watched, and the users and groups it loses leave its policies. -/
def replaceProject (name : String) (uuid payload filter : Value)
    (removedUsers removedGroups : List String) (prepare : Value -> Build Value) : Build Unit := do
  checkProjectUsage uuid filter
  let payload <- prepare payload
  logInfo ("Updating project '" ++ name ++ "'")
  putProject uuid payload false
  if !removedUsers.isEmpty || !removedGroups.isEmpty then
    logInfo "Updating project acps"
    removeFromProjectPolicies uuid removedUsers removedGroups

/-- Updates a project by one of a file, keeping the project's environments and name. -/
def updateProjectByFile (r : Runtime) (name file : String) (noCacheUpdate : Bool) :
    Build Unit := do
  let _ <- serverSettings
  let names <- loadFile r file
  let some (.entity project) := lastWhere names (derivesFromRoot [.project])
    | logError ("User project not found in " ++ file)
  let project <- if project.hasAttr "envs" then project.set "envs" (.list []) else pure project
  let mut payload := .ofJson (<- projectFilePayload r project)
  let uuid <- projectUuidNamed name
  let old <- readProject uuid
  let oldResources <- path! old ["spec", "resources"]
  let newResources <- path! payload ["spec", "resources"]
  let newUsers <- referenceNames newResources "user_reference_list"
  let newGroups <- referenceNames newResources "external_user_group_reference_list"
  let removedUsers := (<- referenceNames oldResources "user_reference_list").filter
    (!newUsers.contains ·)
  let removedGroups := (<- referenceNames oldResources "external_user_group_reference_list").filter
    (!newGroups.contains ·)
  let oldEnvs <- getOr oldResources "environment_reference_list" (.list [])
  if oldEnvs.truthy then payload <- setResource payload "environment_reference_list" oldEnvs
  let oldDefault <- getOr oldResources "default_environment_reference" emptyDict
  if oldDefault.truthy then
    payload <- setResource payload "default_environment_reference" oldDefault
  let newResources <- path! payload ["spec", "resources"]
  let subnetLists := ["subnet_reference_list", "external_network_list"]
  let lostSubnets := valuesMissingFrom (<- referenceUuids oldResources subnetLists)
    (<- referenceUuids newResources subnetLists)
  let lostAccounts := valuesMissingFrom
    (<- referenceUuids oldResources ["account_reference_list"])
    (<- referenceUuids newResources ["account_reference_list"])
  let filter := dictOf [("subnet_reference_list", .list lostSubnets),
    ("account_reference_list", .list lostAccounts)]
  replaceProject name uuid payload filter removedUsers removedGroups fun payload => do
    let payload <- setKey payload "metadata" (<- at! old "metadata")
    let payload <- setKey payload "spec" (<- setKey (<- at! payload "spec") "name" (.str name))
    setKey payload "metadata" (<- setKey (<- at! payload "metadata") "name" (.str name))
  if noCacheUpdate then
    logInfo "Skipping projects cache update"
  else
    logInfo "Updating projects cache ..."
    refreshProject uuid.toText
    logInfo "[Done]"

/-- The references of a list of a project's resources that are kept, and the names of those
    taken out. -/
def splitReferences (resources : Value) (key : String) (removed : List String) :
    Build (List Value × List String) := do
  let mut kept := []
  let mut gone := []
  for ref in <- iterate (<- getOr resources key (.list [])) do
    let name <- at! ref "name"
    if removed.any fun n => name.equal (.str n) then gone := gone ++ [name.toText]
    else kept := kept ++ [ref]
  pure (kept, gone)

/-- Updates a project by users, groups and accounts added and removed. -/
def updateProjectMembers (name : String) (values : ParamValues) : Build Unit := do
  let _ <- serverSettings
  let removeUsers := textsValue values "remove_user_list"
  let removeGroups := textsValue values "remove_group_list"
  let addAccounts := textsValue values "add_account_list"
  let removeAccounts := textsValue values "remove_account_list"
  let uuid <- projectUuidNamed name
  let (_, project) <- popOr (<- readProject uuid) "status" .none
  let mut resources <- path! project ["spec", "resources"]
  let unknownUsers := missingFrom removeUsers (<- referenceNames resources "user_reference_list")
  if !unknownUsers.isEmpty then
    exitWith ("Users " ++ textSet unknownUsers ++ " are not registered in project")
  let unknownGroups := missingFrom removeGroups
    (<- referenceNames resources "external_user_group_reference_list")
  if !unknownGroups.isEmpty then
    exitWith ("Groups " ++ textSet unknownGroups ++ " are not registered in project")
  let (keptUsers, removedUsers) <- splitReferences resources "user_reference_list" removeUsers
  let (keptGroups, removedGroups) <- splitReferences resources
    "external_user_group_reference_list" removeGroups
  let userMap <- directoryUsers.nameUuidMap (dictOf [("length", .int 1000)])
  let mut users := keptUsers
  for user in textsValue values "add_user_list" do
    users := users ++ [dictOf [("kind", .str "user"), ("name", .str user),
      ("uuid", <- subscript userMap (.str user))]]
  let groupMap <- groupNameUuidMap userGroups (dictOf [("length", .int 1000)])
  let mut groups := keptGroups
  for group in textsValue values "add_group_list" do
    groups := groups ++ [dictOf [("kind", .str "user_group"), ("name", .str group),
      ("uuid", <- subscript groupMap (.str group))]]
  resources <- setKey resources "user_reference_list" (.list users)
  resources <- setKey resources "external_user_group_reference_list" (.list groups)
  let common := sharedWith addAccounts removeAccounts
  if !common.isEmpty then
    logError ("Same accounts found in both added and removing list " ++ textSet common)
    throw (.exit "Same accounts found in both added and removing list")
  let mut accounts : List Value := []
  let mut lostAccounts : List Value := []
  for account in <- iterate (<- getOr resources "account_reference_list" (.list [])) do
    let accountUuid <- at! account "uuid"
    let some row := (<- get).cache.accountById? accountUuid.toText
      | do
        logError ("Account (uuid=" ++ accountUuid.toText ++ ") not found. Please update cache")
        throw (.exit ("Account (uuid=" ++ accountUuid.toText ++ ") not found"))
    if removeAccounts.contains row.name then lostAccounts := lostAccounts ++ [accountUuid]
    else accounts := accounts ++ [account]
  let keptUuids <- accounts.mapM (at! · "uuid")
  for accountName in addAccounts do
    let some row := (<- get).cache.account? accountName
      | do
        logError ("Account (name=" ++ accountName ++ ") not found. Please update cache")
        throw (.exit ("Account (name=" ++ accountName ++ ") not found"))
    if keptUuids.any (·.equal (.str row.uuid)) then continue
    accounts := accounts ++ [dictOf [("kind", .str "account"), ("name", .str accountName),
      ("uuid", .str row.uuid)]]
  resources <- setKey resources "account_reference_list" (.list accounts)
  let project <- setKey project "spec" (<- setKey (<- at! project "spec") "resources" resources)
  let filter := dictOf [("account_reference_list", .list lostAccounts),
    ("subnet_reference_list", .list [])]
  replaceProject name uuid project filter removedUsers removedGroups pure
  logInfo "Updating projects cache ..."
  refreshProject uuid.toText
  logInfo "[Done]"

def updateProject (r : Runtime) (values : ParamValues) : Build Unit := do
  let name := textValue values "project_name"
  let switches := ["add_user_list", "add_group_list", "add_account_list", "remove_account_list",
    "remove_user_list", "remove_group_list"]
  let file := textValue? values "project_file"
  if file.isNone && !switches.any (hasItems values) then
    exitWith "Either project file or add/remove paramters for users/groups should be given"
  match file with
  | some f =>
    if f.endsWith ".py" then updateProjectByFile r name f (flagValue values "no_cache_update")
    else logError "Unknown file format"
  | none => updateProjectMembers name values

/-- Creates a project from its payload under the name and description given; answers its
    name, uuid and execution context after watching the task of its creation. -/
def submitNewProject (payload : Value) (name description : Option String) : Build Value := do
  let (_, payload) <- popOr payload "status" .none
  let payload <- renamed payload name description
  logInfo ("Creating project '" ++ (<- path! payload ["spec", "name"]).toText ++ "'")
  let outcome <- createProject projects payload
  outcome.exitOnErrorText
  let project <- outcome.json
  let summary <- projectSummary project
  printJson summary
  logInfo "Polling on project creation task"
  let state <- watchProjectTask (<- path! project ["metadata", "uuid"])
    (<- path! project ["status", "execution_context", "task_uuid"])
  if failedProjectTask state then
    exitWith ("Project creation task went to " ++ taskStateText state ++ " state")
  pure summary

/-- Before version 3.2.0 the names of new environments are looked up first; a name taken is
    reported, and the environment is created all the same. -/
def searchEnvironmentNames (r : Runtime) (envs : List Value) : Build Unit := do
  for env in envs do
    let name := (<- r.attr env "__name__").toText
    logInfo ("Searching for existing environments with name '" ++ name ++ "'")
    let outcome <- environments.list (dictOf [("filter", .str ("name==" ++ name))])
    outcome.exitOnErrorText
    if (<- path! (<- outcome.json) ["metadata", "total_matches"]).truthy then
      logError ("Environment with name '" ++ name ++ "' already exists")
    logInfo ("No existing environment found with name '" ++ name ++ "'")

/-- Creates the environments of a new project inside it and records them in the project, with
    the default environment, or else the first, from version 3.2.0. -/
def addProjectEnvironments (r : Runtime) (projectName projectUuid : Value) (envs : List Value)
    (defaultName : String) : Build Unit := do
  let saved := (<- get).project
  modify fun s => { s with project := projectName.toText }
  let mut refs : List Value := []
  let mut defaultRef : Option Value := none
  for env in envs do
    let .entity e := env | throw (.wrongType "an environment class is expected")
    let (envName, envUuid) <- submitEnvironment (.ofJson (<- environmentFilePayload r e))
    let ref := dictOf [("kind", .str "environment"), ("uuid", envUuid)]
    refs := refs ++ [ref]
    if !defaultName.isEmpty && envName.equal (.str defaultName) then defaultRef := some ref
  logInfo ("Updating project '" ++ projectName.toText ++ "' for adding environment")
  let (_, project) <- popOr (<- projectById projectUuid) "status" .none
  let mut project <- setResource project "environment_reference_list" (.list refs)
  let first <- match refs with
    | ref :: _ => at! ref "uuid"
    | [] => throw (.outOfRange "list index out of range")
  let chosen := defaultRef.getD (dictOf [("kind", .str "environment"), ("uuid", first)])
  if !versionLt (<- get).version "3.2.0" then
    project <- setResource project "default_environment_reference" chosen
  submitProject projectUuid project
  modify fun s => { s with project := saved }
  logInfo "Updating environments cache ..."
  for ref in refs do addEnvironment (<- at! ref "uuid").toText
  logInfo "[Done]"

def createProjectFile (r : Runtime) (values : ParamValues) : Build Unit := do
  let file := textValue values "project_file"
  if !file.endsWith ".py" then
    logError "Unknown file format"
    return
  let _ <- serverSettings
  let names <- loadFile r file
  let some (.entity project) := lastWhere names (derivesFromRoot [.project])
    | logError ("User project not found in " ++ file)
  let envs <- if project.hasAttr "envs" then iterate ((project.lookup? "envs").getD (.list []))
    else pure []
  let mut project := project
  let mut defaultName := ""
  match project.lookup? "default_environment" with
  | some .none | none => pure ()
  | some given =>
    project <- project.set "default_environment" (.dict [])
    defaultName := (<- r.attr given "__name__").toText
  if defaultName.isEmpty then
    if let env :: _ := envs then defaultName := (<- r.attr env "__name__").toText
  if versionLt (<- get).version "3.2.0" then searchEnvironmentNames r envs
  if !envs.isEmpty && flagValue values "no_cache_update" then
    logError "Environment create is not allowed when cache update is disabled"
    return
  let payload := .ofJson (<- projectFilePayload r project)
  let summary <- submitNewProject payload (textValue? values "project_name")
    (textValue? values "description")
  let projectName <- at! summary "name"
  let projectUuid <- at! summary "uuid"
  logInfo "Updating projects cache"
  addProject projectUuid.toText
  logInfo "[Done]"
  if !envs.isEmpty then addProjectEnvironments r projectName projectUuid envs defaultName

/-- The subnets of a PC account that a project allows, one line each. -/
def describeAllowedSubnets (account : String) (subnets : List String) : Build Unit := do
  let found <- filteredSubnets (.str account) ("_entity_id_==" ++ "|".intercalate subnets)
  let nics <- iterate (<- at! found "entities")
  print "\n\tWhitelisted Subnets:\n\t--------------------\n"
  for nic in nics do
    let status <- at! nic "status"
    let name <- at! status "name"
    let vlan <- path! status ["resources", "vlan_id"]
    let cluster <- path! status ["cluster_reference", "name"]
    let uuid <- path! nic ["metadata", "uuid"]
    echo ("\tName: " ++ name.toText ++ " (uuid: " ++ uuid.toText ++ ")\tVLAN ID: " ++
      vlan.toText ++ "\tCluster Name: " ++ cluster.toText)

def describeProject (values : ParamValues) : Build Unit := do
  let _ <- serverSettings
  let name := textValue values "project_name"
  let project <- fetchProject name
  if textValue values "out" == "json" then return <- printJson project
  let metadata <- at! project "metadata"
  let status <- at! project "status"
  echo "\n----Project Summary----\n"
  echo ("Name: " ++ name ++ " (uuid: " ++ (<- at! metadata "uuid").toText ++ ")")
  echo ("Status: " ++ (<- at! status "state").toText)
  echo ("Owner: " ++ (<- path! metadata ["owner_reference", "name"]).toText)
  let created <- isoInstant (<- at! metadata "creation_time")
  echo ("Created on: " ++ ctime created ++ " (" ++ ago created ++ ")")
  let resources <- getOr status "resources" emptyDict
  let envs <- getOr resources "environment_reference_list" (.list [])
  print "Environment Registered: "
  if !envs.truthy then echo "No"
  else echo ("Yes ( uuid: " ++ (<- at! (<- subscript envs (.int 0)) "uuid").toText ++ " )")
  let users <- getOr resources "user_reference_list" (.list [])
  if users.truthy then
    let names <- directoryUsers.uuidNameMap (dictOf [("length", .int 1000)])
    echo "\nRegistered Users: \n--------------------"
    for user in <- iterate users do
      echo ("\t" ++ (<- subscript names (<- at! user "uuid")).toText)
  let groups <- getOr resources "external_user_group_reference_list" (.list [])
  if groups.truthy then
    let names <- groupUuidNameMap userGroups (dictOf [("length", .int 1000)])
    echo "\nRegistered Groups: \n--------------------"
    for group in <- iterate groups do
      echo ("\t" ++ (<- subscript names (<- at! group "uuid")).toText)
  echo "\nInfrastructure: \n---------------"
  let mut subnets : List String := []
  for s in <- iterate (<- at! resources "subnet_reference_list") do
    subnets := subnets ++ [(<- at! s "uuid").toText]
  for s in <- iterate (<- getOr resources "external_network_list" (.list [])) do
    subnets := subnets ++ [(<- at! s "uuid").toText]
  let accounts <- at! resources "account_reference_list"
  for account in <- iterate accounts do
    let accountUuid := (<- at! account "uuid").toText
    let some row := (<- get).cache.accountById? accountUuid
      | exitWith ("Account (uuid=" ++ accountUuid ++ ") not found. Please update cache")
    echo ("\nAccount Type: " ++ row.providerType.toUpper)
    echo ("Name: " ++ row.name ++ " (uuid: " ++ row.uuid ++ ")")
    if row.providerType == "nutanix_pc" && !subnets.isEmpty then
      describeAllowedSubnets accountUuid subnets
  if !accounts.truthy then echo "No provider's account registered"
  let quotas <- getOr (<- getOr resources "resource_domain" emptyDict) "resources" (.list [])
  if quotas.truthy then
    echo "\nQuotas: \n-------"
    for quota in <- iterate quotas do
      let kind <- at! quota "resource_type"
      let mut limit <- at! quota "limit"
      if (<- at! quota "units").equal (.str "BYTES") then
        limit := .str ((<- arith .floorDiv limit (.int 1073741824)).toText ++ " (GiB)")
      echo ("\t" ++ kind.toText ++ " : " ++ limit.toText)

def deleteProjects (values : ParamValues) : Build Unit := do
  let _ <- serverSettings
  let map <- projects.nameUuidMap emptyDict
  let mut deleted : List Value := []
  for name in textsValue values "project_names" do
    let uuid <- getOr map name (.str "")
    if !uuid.truthy then
      logWarning ("Project " ++ name ++ " not found.")
      continue
    logInfo ("Deleting project '" ++ name ++ "'")
    let outcome <- Call.send { method := .delete, endpoint := calmProjectPath uuid }
    if let some err := outcome.error then
      logError (<- errorText err)
      continue
    deleted := deleted ++ [uuid]
    logInfo "Polling on project deletion task"
    let res <- outcome.json
    let state <- watchProjectTask uuid (<- path! res ["status", "execution_context", "task_uuid"])
    if failedProjectTask state then
      exitWith ("Project deletion task went to " ++ taskStateText state ++ " state")
  if deleted.isEmpty then return
  if flagValue values "no_cache_update" then
    logInfo "skipping projects cache update"
  else
    logInfo "Updating projects cache ..."
    for uuid in deleted do deleteProject uuid.toText
    logInfo "[Done]"

end Blueprints.Cli
