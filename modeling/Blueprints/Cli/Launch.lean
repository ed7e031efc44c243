import Blueprints.Cli.Launch.Protection
import Blueprints.Cli.Blueprints
import Blueprints.Value.Pretty

namespace Blueprints.Cli

open Library Http Api Build Text

/-- How a blueprint is launched. -/
structure LaunchRequest where
  appName : String
  profile : Option String := none
  editable : Bool := true
  paramsFile : Option String := none
  brownfieldFile : Option String := none

def indentedJson (v : Value) : Build String :=
  match v.toJson with
  | .ok j => pure (Json.render (.pretty 4) j)
  | .error f => throw f

/-- Ends the program when an application already has the name. -/
def ensureAppNameFree (appName : String) : Build Unit := do
  logInfo ("Searching for existing applications with name " ++ appName)
  let existing <- (<- applications.list (dictOf [("filter", .str ("name==" ++ appName))])).jsonOrRaise
  if (<- path! existing ["metadata", "total_matches"]).truthy then
    exitWith ("Application Name (" ++ appName ++ ") is already used.")
  logInfo ("No existing application found with name " ++ appName)

/-- The profiles of a blueprint with their runtime editables, as the server gives them. -/
def launchProfiles (bp : Value) : Build Value := do
  let uuid <- getOr (<- getOr bp "metadata" emptyDict) "uuid" .none
  if !uuid.truthy then throw (.failure ("Invalid blueprint provided " ++ bp.toText ++ " "))
  let response <- (<- getAt (blueprints.item uuid ++ "/runtime_editables")).jsonOrRaise
  getOr response "resources" (.list [])

/-- The list that a file of launch parameters gives under a name; without a file, none. -/
def launchList (r : Runtime) (file : Option String) (key : String) : Build Value :=
  match file with
  | some f => launchParameter r f key
  | none => pure (.list [])

/-- The value that launch parameters give an editable of a name: none when no entry names it;
    several entries naming it end the program. -/
def launchValueNamed (entries name context : Value) : Build Value := do
  let matching <- (<- iterate entries).filterM fun e => do pure ((<- at! e "name").equal name)
  if matching.length > 1 then
    exitWith ("Unable to populate runtime editables: Multiple matches for name " ++
      name.toText ++ " and context " ++ context.toText)
  match matching with
  | [e] => getOr e "value" emptyDict
  | _ => pure .none

/-- Whether the context of a variable in launch parameters names a variable's context: the
    name of the entity the variable belongs to, or `profile.action` for a variable of an
    action of a profile. -/
def variableContextMatches (given : Value) (context : String) : Build Bool := do
  let parts := context.splitOn "."
  match parts.reverse with
  | "variable" :: parent :: _ =>
    if given.equal (.str parent) then return true
    let givenParts := (<- textFor given "split").splitOn "."
    match givenParts, parts with
    | [profile, action], _ :: p :: _ :: a :: _ => pure (p == profile && a == action)
    | _, _ => pure false
  | _ => pure false

/-- The value that launch parameters give a variable: none when no entry names it; several
    entries naming it end the program. -/
def launchVariableValue (entries name context : Value) : Build Value := do
  let contextText <- textFor context "split"
  let mut matching : List Value := []
  for e in <- iterate entries do
    if <- variableContextMatches (<- at! e "context") contextText then
      if (<- at! e "name").equal name then matching := matching ++ [e]
  if matching.length > 1 then
    exitWith ("Unable to populate runtime editables: Multiple matches for name " ++
      name.toText ++ " and context " ++ contextText)
  match matching with
  | [e] => getOr (<- getOr e "value" emptyDict) "value" .none
  | _ => pure .none

/-- The values a dynamic variable offers, as the server evaluates them: the evaluation is
    started and then read until it has succeeded, at most five minutes. A failed reading gives
    no values and its error. -/
def dynamicVariableValues (bpUuid varUuid : Value) : Build (List Value × Option Value) := do
  let base := blueprints.item bpUuid ++ "/variables/" ++ varUuid.toText ++ "/values"
  let started <- (<- getAt base true).json
  let requestId <- at! started "request_id"
  let trlId <- at! started "trl_id"
  for _ in List.range 30 do
    let outcome <- getAt (base ++ "?requestId=" ++ requestId.toText ++ "&trlId=" ++ trlId.toText) true
    if let some err := outcome.error then return ([], some err)
    let data <- outcome.json
    if (<- at! data "state").isText "SUCCESS" then return (<- iterate (<- at! data "values"), none)
  exitWith "Waited for 5 minutes for dynamic variable evaludation"

/-- The entries of the blueprint's data that a variable's context walks through, by the kind of
    entity each part of the context names. -/
def contextLists : List (String × String) :=
  [("app_profile", "app_profile_list"), ("deployment", "deployment_create_list"),
    ("package", "package_definition_list"), ("service", "service_definition_list"),
    ("substrate", "substrate_definition_list"), ("action", "action_list"),
    ("runbook", "runbook")]

/-- The declaration of a variable in the blueprint's resources, found by walking its context:
    each kind and name of the context steps into the entity of that name. -/
def declaredVariable (resources : Value) (context : String) (name : Value) : Build Value := do
  let parts := context.splitOn "."
  let mut data := resources
  let mut rest := parts
  for _ in parts do
    match rest with
    | [] => break
    | kind :: more =>
      if kind == "variable" then break
      let some key := (contextLists.find? (·.1 == kind)).map (·.2)
        | exitWith ("Unknown entity type " ++ kind)
      data <- if <- compareValues .mem (.str key) data then at! data key else at! resources key
      let entityName <- match more with
        | n :: _ => pure n
        | [] => throw (.outOfRange "list index out of range")
      if let .list entities := data then
        for entity in entities do
          if (<- at! entity "name").equal (.str entityName) then
            data := entity
            break
      rest := more.drop 1
  for v in <- iterate (<- at! data "variable_list") do
    if name.equal (<- at! v "name") then return v
  exitWith ("No data found with variable name " ++ name.toText)

/-- The value of a variable at launch: from the launch parameters when they list variables,
    else asked for, with the choices it offers. -/
def variableValue (entry bpData launchVars : Value) : Build Value := do
  let context <- at! entry "context"
  let name <- getOr entry "name" (.str "")
  if launchVars.truthy then return <- launchVariableValue launchVars name context
  let kind <- at! entry "type"
  let choices <- if ["HTTP_LOCAL", "EXEC_LOCAL", "HTTP_SECRET", "EXEC_SECRET"].any kind.isText then do
      let (values, err) <- dynamicVariableValues (<- path! bpData ["metadata", "uuid"])
        (<- at! entry "uuid")
      if let some e := err then
        echo ""
        logWarning ("Exception occured while fetching value of variable '" ++ name.toText ++
          "': " ++ e.toText)
      values.mapM fun c => do
        pure (Value.str (String.ofList ((((<- textFor c "strip").toList.dropWhile
          isBlankChar).reverse.dropWhile isBlankChar).reverse)))
    else do
      let resources <- path! bpData ["status", "resources"]
      let declared <- declaredVariable resources (<- textFor context "split") name
      iterate (<- getOr (<- getOr declared "options" emptyDict) "choices" (.list []))
  echo ""
  if !choices.isEmpty then
    echo "Choose from given choices: "
    for c in choices do echo ("\t" ++ c.repr)
  let hide := ((<- textFor (<- getOr entry "type" .none) "split").splitOn "_").getLast? ==
    some "SECRET"
  let default <- getOr (<- at! entry "value") "value" .none
  askLike ("Value for " ++ name.repr ++ " in " ++ context.toText ++ " [" ++ default.repr ++ "]")
    default hide

/-- The subnets of the Nutanix account of an environment, each with its cluster. -/
def environmentSubnets (account : Value) : Build (List Value) := do
  let filter <- joinTexts "|" (.list (<- (<- iterate (<- at! account "subnet_references")).mapM
    (at! · "uuid")))
  let api := nutanixApi "2.9.0"
  let found <- askServer api "subnets" [("filter_query", .str ("_entity_id_=in=" ++ filter)),
    ("account_uuid", <- path! account ["account_reference", "uuid"])]
  (<- iterate (<- at! found "entities")).mapM fun subnet => do
    let uuid <- path! subnet ["metadata", "uuid"]
    let clusterName <- path! subnet ["status", "cluster_reference", "name"]
    let clusterUuid <- path! subnet ["status", "cluster_reference", "uuid"]
    let subnetName <- path! subnet ["status", "name"]
    pure (dictOf [("cluster_name", clusterName), ("cluster_uuid", clusterUuid),
      ("subnet_name", subnetName), ("subnet_uuid", uuid)])

/-- The snapshot and restore configurations of a profile, with the protection policy and rule
    that the user chooses for each snapshot configuration; the restore configuration that a
    snapshot configuration names takes the same. -/
def chooseSnapshotProtection (bpUuid profile bpData snapshots restores launchSnapshots : Value) :
    Build (Value × Value) := do
  let mut restoreIndex : List (Value × Nat) := []
  for (c, i) in (<- iterate restores).zipIdx do
    let uuid <- at! c "uuid"
    restoreIndex := (restoreIndex.filter (!·.1.equal uuid)) ++ [(uuid, i)]
  print "\n\t\t\tSNAPSHOT CONFIG LIST DATA\n"
  let profiles <- iterate (<- path! bpData ["status", "resources", "app_profile_list"])
  let some appProfile <- firstSuch profiles fun p => do
      pure ((<- at! p "uuid").equal (<- path! profile ["app_profile_reference", "uuid"]))
    | do
      let reference <- getOr profile "app_profile_reference" emptyDict
      exitWith ("App Profile " ++ (<- getOr reference "name" (.str "")).toText ++
        " with uuid " ++ (<- getOr reference "uuid" (.str "")).toText ++ " not found")
  let environments <- at! appProfile "environment_reference_list"
  if !environments.truthy then
    logError ("Cannot launch a blueprint with snapshot-restore configs without " ++
      "selecting an environment")
    throw (.exit "No environment selected")
  let substrates <- path! bpData ["status", "resources", "substrate_definition_list"]
  let mut restoreList <- iterate restores
  let mut out : List Value := []
  for config in <- iterate snapshots do
    let mut config := config
    if launchSnapshots.truthy then
      let given <- firstSuch (<- iterate launchSnapshots) fun c => do
        pure ((<- at! c "name").equal (<- at! config "name"))
      if let some c := given then config <- setKey config "value" (<- at! c "value")
    let profileUuid <- at! appProfile "uuid"
    let configUuid <- at! config "uuid"
    let environment <- subscript environments (.int 0)
    let outcome <- postAt (blueprints.item bpUuid ++ "/app_profile/" ++ profileUuid.toText ++
      "/config_spec/" ++ configUuid.toText ++ "/app_protection_policies/list")
      (dictOf [("length", .int 250), ("offset", .int 0),
        ("filter", .str ("environment_references==" ++ environment.toText))])
    if let some err := outcome.error then
      logError ("[" ++ (<- at! err "code").toText ++ "] - " ++ (<- at! err "error").toText)
      throw (.exit "Unable to retrieve protection policies")
    let policies <- (<- iterate (<- at! (<- outcome.json) "entities")).mapM (at! · "status")
    let found <- (Resource.named "EnvironmentAPI" "environments").list
      (dictOf [("filter", .str ("uuid==" ++ environment.toText))])
    if let some err := found.error then
      logError ("[" ++ (<- at! err "code").toText ++ "] - " ++ (<- at! err "error").toText)
      throw (.exit "Unable to retrieve environments")
    let env <- firstSuch (<- iterate (<- at! (<- found.json) "entities")) fun e => do
      pure ((<- path! e ["metadata", "uuid"]).equal environment)
    let infra <- match env with
      | some e => path! e ["status", "resources", "infra_inclusion_list"]
      | none => pure .none
    if !infra.truthy then
      logError "Cannot find accounts associated with the environment"
      throw (.exit "Unable to retrieve accounts")
    let some account <- firstSuch (<- iterate infra) fun a => do
        pure ((<- at! a "type").isText "nutanix_pc")
      | do
        logError "No nutanix account found associated with the environment"
        throw (.exit "No nutanix account found in environment")
    let subnets <- environmentSubnets account
    let attrs <- subscript (<- path! config ["value", "attrs_list"]) (.int 0)
    let policyUuid <- at! attrs "app_protection_policy_reference"
    let ruleUuid <- at! attrs "app_protection_rule_reference"
    let (policy, rule) <- chooseProtection policyUuid ruleUuid configUuid appProfile policies
      subnets substrates
    let some declared <- firstSuch (<- iterate (<- at! appProfile "snapshot_config_list")) fun c => do
        pure ((<- at! c "uuid").equal configUuid)
      | throw (.missingAttribute "'CustomLogging' object has no attribute 'err'")
    let chosen := dictOf [("attrs_list", .list [dictOf
      [("app_protection_rule_reference", <- at! rule "uuid"),
        ("app_protection_policy_reference", <- at! policy "uuid")]])]
    config <- setKey config "value" chosen
    let restoreId <- at! (<- subscript (<- at! declared "config_reference_list") (.int 0)) "uuid"
    let some (_, i) := restoreIndex.find? (·.1.equal restoreId)
      | throw (.missingKey restoreId.repr)
    restoreList <- restoreList.zipIdx.mapM fun (c, j) => if j == i then setKey c "value" chosen
      else pure c
    out := out ++ [config]
  pure (.list out, .list restoreList)

/-- The runtime editables of a profile changed from launch parameters or by asking, and shown
    before and after. -/
def changeEditables (r : Runtime) (req : LaunchRequest) (bpUuid projectUuid profile : Value)
    (editables : Value) : Build Value := do
  echo ("Blueprint editables are:\n" ++ (<- indentedJson editables))
  let file := req.paramsFile.filter (!·.isEmpty)
  let asking := file.isNone
  let launchVars <- launchList r file "variable_list"
  let launchSubstrates <- launchList r file "substrate_list"
  let launchDeployments <- launchList r file "deployment_list"
  let launchCredentials <- launchList r file "credential_list"
  let launchSnapshots <- launchList r file "snapshot_config_list"
  let read <- blueprints.read bpUuid
  read.exitOnError
  let bpData <- read.json
  let mut editables := editables
  let substrates <- getOr editables "substrate_list" (.list [])
  if substrates.truthy then
    if asking then print "\n\t\t\tSUBSTRATE LIST DATA\n"
    let resources <- path! bpData ["status", "resources"]
    let definitions <- at! resources "substrate_definition_list"
    let packages <- at! resources "package_definition_list"
    let mut byName : List (Value × Value) := []
    for s in <- iterate definitions do byName := putValue byName (<- at! s "name") s
    let mut images : List (Value × Value) := []
    for p in <- iterate packages do
      if (<- at! p "type").isText "SUBSTRATE_IMAGE" then
        images := putValue images (<- at! p "name") (<- at! p "uuid")
    let mut out : List Value := []
    for sub in <- iterate substrates do
      if file.isSome then
        let given <- launchValueNamed launchSubstrates (<- getOr sub "name" .none)
          (<- getOr sub "context" .none)
        out := out ++ [<- if given.truthy then setKey sub "value" given else pure sub]
      else
        let kind <- at! sub "type"
        if !providerTypes.any kind.isText then throw (.failure "provider not registered")
        let name <- at! sub "name"
        let some data := lookupValue byName name | throw (.missingKey name.repr)
        if kind.isText "AHV_VM" then out := out ++ [<- askMachineEditables sub projectUuid data images]
        else out := out ++ [sub]
    editables <- setKey editables "substrate_list" (.list out)
  let declared <- iterate (<- getOr editables "variable_list" (.list []))
  let marked <- declared.mapM fun v => do
    let parts := (<- textFor (<- at! v "context") "split").splitOn "."
    pure (v, !(parts.length ≥ 3 && (parts.reverse.drop 2).head? == some "runbook"))
  if marked.any (·.2) then
    if asking then print "\n\t\t\tVARIABLE LIST DATA\n"
    logWarning ("Values fetched from API/ESCRIPT will not have a default. User will have " ++
      "to select an option at launch.")
    let mut out : List Value := []
    for (v, atLaunch) in marked do
      if !atLaunch then
        out := out ++ [v]
        continue
      let given <- variableValue v bpData launchVars
      if given.truthy then out := out ++ [<- setKey v "value" (<- setKey (<- at! v "value") "value" given)]
      else out := out ++ [v]
    editables <- setKey editables "variable_list" (.list out)
  for (key, entries) in [("deployment_list", launchDeployments), ("credential_list", launchCredentials)] do
    let items <- getOr editables key (.list [])
    if items.truthy && file.isSome then
      let mut out : List Value := []
      for item in <- iterate items do
        let given <- launchValueNamed entries (<- getOr item "name" .none) (<- getOr item "context" .none)
        out := out ++ [<- if given.truthy then setKey item "value" given else pure item]
      editables <- setKey editables key (.list out)
  let snapshots <- getOr editables "snapshot_config_list" (.list [])
  let restores <- getOr editables "restore_config_list" (.list [])
  for c in <- iterate restores do let _ <- at! c "uuid"
  if snapshots.truthy && restores.truthy then
    let (snapshots, restores) <- chooseSnapshotProtection bpUuid profile bpData snapshots restores
      launchSnapshots
    editables <- updateWith editables [("snapshot_config_list", snapshots),
      ("restore_config_list", restores)]
  logInfo ("Updated blueprint editables are:\n" ++ (<- indentedJson editables))
  pure editables

/-- The brownfield deployments of a file as runtime editables of a profile: each deployment of
    the file that the profile has, with the machines it names looked up on the account of the
    profile's deployment of that name. -/
def brownfieldEditables (r : Runtime) (bp profile : Value) (file : String) : Build (List Value) := do
  let metadata <- getOr bp "metadata" emptyDict
  let projectUuid <- getOr (<- getOr metadata "project_reference" emptyDict) "uuid" (.str "")
  if projectUuid.truthy then
    if let some p := (<- get).cache.projectById? projectUuid.toText then
      if !p.name.isEmpty && p.name != (<- get).project then
        modify fun s => { s with project := p.name }
  let deployments <- brownfieldOf r file
  let status <- getOr bp "status" emptyDict
  let resources <- at! status "resources"
  let profileName <- path! profile ["app_profile_reference", "name"]
  let mut profileData : Value := emptyDict
  for p in <- iterate (<- at! resources "app_profile_list") do
    if (<- at! p "name").equal profileName then profileData := p
  let mut substrateAccounts : List (Value × Value) := []
  for sub in <- iterate (<- at! resources "substrate_definition_list") do
    let kind <- getOr sub "type" (.str "")
    if kind.isText "EXISTING_VM" then
      substrateAccounts := putValue substrateAccounts (<- at! sub "uuid") (.str "")
      continue
    let account <- path! sub ["create_spec", "resources", "account_uuid"]
    let account <- if kind.isText "AHV_VM" then cachedAccountData account "pc_account_uuid"
      else pure account
    substrateAccounts := putValue substrateAccounts (<- at! sub "uuid") account
  let mut depUuids : List (Value × Value) := []
  let mut depAccounts : List (Value × Value) := []
  for dep in <- iterate (<- getOr profileData "deployment_create_list" (.list [])) do
    let name <- at! dep "name"
    depUuids := putValue depUuids name (<- at! dep "uuid")
    let substrateUuid <- path! dep ["substrate_local_reference", "uuid"]
    let some account := lookupValue substrateAccounts substrateUuid
      | throw (.missingKey substrateUuid.repr)
    depAccounts := putValue depAccounts name account
  let mut out : List Value := []
  for (className, dep) in deployments do
    let given <- r.attr (.entity dep) "name"
    let name := if given.truthy then given else .str className
    let mut instances : List Value := []
    for inst in <- iterate (<- r.attr (.entity dep) "instances") do
      let some account := lookupValue depAccounts name | throw (.missingKey name.repr)
      match inst with
      | .entity e => instances := instances ++ [.entity (<- e.set "account_uuid" account)]
      | other => instances := instances ++ [other]
    let dep <- dep.set "instances" (.list instances)
    let compiled := .ofJson (<- r.encode false [] (.entity dep))
    if let some uuid := lookupValue depUuids name then
      let list <- getOr compiled "brownfield_instance_list" .none
      out := out ++ [dictOf [("uuid", uuid), ("name", name),
        ("value", dictOf [("brownfield_instance_list", if list.truthy then list else .list [])])]]
  pure out

/-- Polls the launch of a blueprint until the application is made or the launch has failed, at
    most five minutes, ten seconds apart; each answer of the server is shown. -/
def pollLaunch (bpUuid requestId : Value) : Build Unit := do
  for _ in List.range 30 do
    logInfo "Polling status of Launch"
    let outcome <- getAt (blueprints.item bpUuid ++ "/pending_launches/" ++ requestId.toText)
    let response <- outcome.json
    let state <- path! response ["status", "state"]
    print (response.pretty ++ "\n")
    if state.isText "success" then
      let appUuid <- path! response ["status", "application_uuid"]
      let settings <- serverSettings
      echo ("Successfully launched. App uuid is: " ++ appUuid.toText)
      logInfo ("App url: https://" ++ settings.serverValue "pc_ip" ++ ":" ++
        settings.serverValue "pc_port" ++ "/console/#page/explore/calm/applications/" ++
        appUuid.toText)
      return
    if state.isText "failure" then
      logError "Failed to launch blueprint. Check API response above."
      return
    if let some err := outcome.error then raiseError err
    logInfo state.toText

/-- Launches a blueprint, given by its name or as the server gave it, as a new application. -/
def launchBlueprint (r : Runtime) (name : String) (given : Option Value) (req : LaunchRequest)
    (brownfield : Bool := false) : Build Unit := do
  let _ <- serverSettings
  if !req.appName.isEmpty then ensureAppNameFree req.appName
  let bp <- match given with
    | some bp => pure bp
    | none => blueprintNamed name false brownfield
  let metadata <- getOr bp "metadata" emptyDict
  let status <- getOr bp "status" emptyDict
  let bpUuid <- getOr metadata "uuid" (.str "")
  let bpName <- if name.isEmpty then do pure (<- getOr metadata "name" (.str "")).toText
    else pure name
  let projectUuid <- getOr (<- getOr metadata "project_reference" emptyDict) "uuid" .none
  let state <- at! status "state"
  if !state.isText "ACTIVE" then
    exitWith ("Blueprint is in " ++ state.toText ++ " state. Unable to launch it")
  logInfo "Fetching runtime editables in the blueprint"
  let profiles <- launchProfiles bp
  let profile <- match req.profile with
    | none => subscript profiles (.int 0)
    | some wanted => do
      let found <- firstSuch (<- iterate profiles) fun p => do
        pure ((<- getOr (<- getOr p "app_profile_reference" emptyDict) "name" .none).isText wanted)
      match found with
      | some p => pure p
      | none => exitWith ("No profile found with name " ++ wanted)
  let brownfieldDeployments <- match req.brownfieldFile.filter (!·.isEmpty) with
    | some file => brownfieldEditables r bp profile file
    | none => pure []
  let (editables, profile) <- popOr profile "runtime_editables" (.list [])
  let appName := if req.appName.isEmpty then
      "App-" ++ bpName ++ "-" ++ toString presentSeconds
    else req.appName
  let mut editables := editables
  if editables.truthy && req.editable then
    editables <- changeEditables r req bpUuid projectUuid profile editables
  if !brownfieldDeployments.isEmpty then
    let names <- brownfieldDeployments.mapM (at! · "name")
    let mut deployments := brownfieldDeployments
    for d in <- iterate (<- getOr editables "deployment_list" (.list [])) do
      let name <- at! d "name"
      if !names.any (·.equal name) then deployments := deployments ++ [d]
    editables <- setKey editables "deployment_list" (.list deployments)
    logInfo ("Updated blueprint deployment editables are:\n" ++
      (<- indentedJson (.list deployments)))
  let payload := dictOf [("spec", dictOf [("app_name", .str appName),
    ("app_description", .str ""),
    ("app_profile_reference", <- getOr profile "app_profile_reference" emptyDict),
    ("runtime_editables", editables)])]
  let outcome <- postAt (blueprints.item bpUuid ++ "/simple_launch") payload
  match outcome.error with
  | none => logInfo ("Blueprint " ++ bpName ++ " queued for launch")
  | some err => raiseError err
  let response <- outcome.json
  pollLaunch bpUuid (<- path! response ["status", "request_id"])

/-- The environment of a name in a project, read in full from the server; an environment that
    the project does not have is an error. -/
def environmentOfProject (project : Value) (name : String) : Build Value := do
  let projectId <- path! project ["metadata", "uuid"]
  let projectName <- path! project ["status", "name"]
  let mut known : List Value := []
  for row in <- iterate (<- path! project ["status", "resources", "environment_reference_list"]) do
    known := known ++ [<- at! row "uuid"]
  logInfo ("Searching for the environment " ++ name ++ " under project " ++ projectName.toText)
  let environments := Resource.named "EnvironmentAPI" "environments"
  let response <- (<- environments.list (dictOf [("filter", .str ("name==" ++ name ++
    ";project_reference==" ++ projectId.toText))])).jsonOrRaise
  let missing := "No environment with name " ++ name ++ " found in project " ++ projectName.toText
  let entities <- getOr response "entities" .none
  if !entities.truthy then throw (.failure missing)
  let uuid <- path! (<- subscript entities (.int 0)) ["metadata", "uuid"]
  if !known.any (·.equal uuid) then throw (.failure missing)
  logInfo ("Environment " ++ name ++ " found ")
  logInfo ("Fetching details of environment (uuid='" ++ uuid.toText ++ "')")
  (<- environments.read uuid).jsonOrRaise

/-- The project of a uuid and the environment of a name in it, read in full from the server; an
    environment that the project does not have is an error. -/
def projectEnvironment (name : String) (projectUuid : Value) : Build (Value × Value) := do
  if !projectUuid.truthy then
    exitWith "One of name or uuid must be provided"
  logInfo ("Fetching details of project (uuid='" ++ projectUuid.toText ++ "')")
  let projects := Resource.named "ProjectAPI" "projects"
  let project <- (<- projects.read projectUuid).jsonOrRaise
  pure (<- environmentOfProject project name, project)

/-- A new blueprint that the server makes from one, its profile linked to an environment. -/
def patchedBlueprint (bp project environment profileName : Value) (withSecrets : Bool) :
    Build Value := do
  let bpName <- path! bp ["metadata", "name"]
  let bpUuid <- path! bp ["metadata", "uuid"]
  let projectUuid <- path! project ["metadata", "uuid"]
  let envUuid <- path! environment ["metadata", "uuid"]
  let newName := bpName.toText ++ "-" ++ (<- Build.freshShort)
  let request := dictOf [("api_version", .str "3.0"),
    ("metadata", dictOf [("kind", .str "blueprint"),
      ("project_reference", dictOf [("kind", .str "project"), ("uuid", projectUuid)])]),
    ("spec", dictOf [("environment_profile_pairs", .list [dictOf [
        ("environment", dictOf [("uuid", envUuid)]),
        ("app_profile", dictOf [("name", profileName)]),
        ("keep_secrets", .bool withSecrets)]]),
      ("new_blueprint", dictOf [("name", .str newName)])])]
  logInfo (if withSecrets then "Creating Patched blueprint with secrets preserved"
    else "Creating Patched blueprint")
  let outcome <- postAt (blueprints.item bpUuid ++ "/patch_with_environment") request
  outcome.exitOnError
  let patched <- outcome.json
  let state <- path! patched ["status", "state"]
  if !state.isText "ACTIVE" then exitWith ("Blueprint went to " ++ state.toText ++ " state")
  pure patched

/-- The blueprint to launch in an environment: when the profile is not linked to the
    environment, the server makes a new blueprint with it linked, and that one is launched.
    Gives the name to launch and the blueprint when it is a new one. -/
def blueprintForEnvironment (withSecrets : Bool) (environment : Option String) (name : String)
    (profileName : Option String) : Build (String × Option Value) := do
  let some envName := environment.filter (!·.isEmpty) | return (name, none)
  let bp <- blueprintNamed name
  let projectUuid <- path! bp ["metadata", "project_reference", "uuid"]
  let (env, project) <- projectEnvironment envName projectUuid
  let envUuid <- path! env ["metadata", "uuid"]
  let profiles <- iterate (<- path! bp ["spec", "resources", "app_profile_list"])
  let profileName <- match profileName with
    | some p => pure (Value.str p)
    | none => do at! (<- subscript (.list profiles) (.int 0)) "name"
  let some found <- firstSuch profiles fun p => do pure ((<- at! p "name").equal profileName)
    | throw (.failure ("No profile found with name " ++ profileName.toText))
  let linked := (<- iterate (<- getOr found "environment_reference_list" (.list []))).head?
  if !(linked.getD .none).equal envUuid then
    let patched <- patchedBlueprint bp project env profileName withSecrets
    return ((<- path! patched ["metadata", "name"]).toText, some patched)
  pure (name, none)

def launchBlueprintCommand (r : Runtime) (values : ParamValues) : Build Unit := do
  let _ <- serverSettings
  let name := textValue values "blueprint_name"
  let appName := match (textValue? values "app_name").filter (!·.isEmpty) with
    | some n => n
    | none => "App-" ++ name ++ "-" ++ toString presentSeconds
  let profile := textValue? values "profile_name"
  let (name, given) <- blueprintForEnvironment (flagValue values "with_secrets")
    (textValue? values "environment") name profile
  launchBlueprint r name given
    { appName, profile, editable := !flagValue values "ignore_runtime_variables",
      paramsFile := textValue? values "launch_params",
      brownfieldFile := textValue? values "brownfield_deployment_file" }
  if flagValue values "watch" then
    watchAppRuns (<- findApp appName) (.str appName) false (pollInterval values)
    logInfo ("Action runs completed for app " ++ appName)

/-- `create app`: a blueprint made from a file, launched as a new application and then
    deleted, unless it is a brownfield blueprint. The blueprint gets a fresh name; one that the
    server did not make active ends the command. -/
def createApp (r : Runtime) (values : ParamValues) : Build Unit := do
  let _ <- serverSettings
  let file := textValue values "bp_file"
  let some payload <- blueprintOf r file (textValue? values "brownfield_deployment_file")
    | exitWith ("User blueprint not found in " ++ file)
  let payload := .ofJson payload
  let kind <- getOr (<- path! payload ["spec", "resources"]) "type" (.str "")
  let bpName := "Blueprint" ++ String.ofList ((<- Build.freshId).toList.take 10)
  logInfo ("Creating blueprint " ++ bpName)
  let outcome <- uploadBlueprintPayload payload (some bpName) none false
  if let some err := outcome.error then
    logError (<- at! err "error").toText
    return
  let bp <- outcome.json
  let state <- getOr (<- at! bp "status") "state" (.str "DRAFT")
  let uuid <- getOr (<- at! bp "metadata") "uuid" (.str "")
  if !state.isText "ACTIVE" then
    exitWith ("Blueprint " ++ bpName ++ " went to " ++ state.toText ++ " state")
  logInfo ("Blueprint " ++ highlight bpName ++ "(uuid=" ++ highlight uuid.toText ++
    ") created successfully.")
  let appName <- match (textValue? values "app_name").filter (!·.isEmpty) with
    | some n => pure n
    | none => pure ("App" ++ String.ofList ((<- Build.freshId).toList.take 10))
  logInfo ("Creating app " ++ appName)
  let brownfield := kind.isText "BROWNFIELD"
  launchBlueprint r bpName none
    { appName, editable := !flagValue values "ignore_runtime_variables",
      paramsFile := textValue? values "launch_params" } brownfield
  if !brownfield then
    let removed <- blueprints.delete uuid
    if let some err := removed.error then raiseError err

end Blueprints.Cli
