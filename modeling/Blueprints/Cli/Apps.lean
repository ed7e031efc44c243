import Blueprints.Cli.Runs

namespace Blueprints.Cli

open Library Http Api Build Text Json Files

def applications : Resource := Resource.named "ApplicationAPI" "apps"

/-- The application of a name, read in full. With `all`, applications in every state count. -/
def findApp (name : String) (all : Bool := false) : Build Value := do
  let filter := "name==" ++ name ++ (if all then statesFilter "_state" applicationStates else "")
  let response <- (<- applications.list (dictOf [("filter", .str filter)])).jsonOrRaise
  let entities <- getOr response "entities" .none
  if !entities.truthy then throw (.failure ("No app found with name " ++ name ++ " found"))
  let _ <- subscript entities (.int 0)
  if (<- lengthOf entities) != 1 then
    let mut found := false
    for entity in <- iterate entities do
      if (<- path! entity ["metadata", "name"]).isText name then
        found := true
        break
    if !found then throw (.failure ("More than one app found - " ++ entities.toText))
  logInfo ("App " ++ name ++ " found")
  let app <- subscript entities (.int 0)
  let uuid <- path! app ["metadata", "uuid"]
  logInfo "Fetching app details"
  (<- applications.read uuid).jsonOrRaise

def jsonText (v : Value) : Build String :=
  match v.toJson with
  | .ok j => pure (render {} j)
  | .error f => throw f

/-- The summary of a run log as a tree of an application shows it: the application's name for
    the application, `root` for a run log of no known kind, and otherwise the name and state
    with lines of its times below. -/
def runlogSummary (runlog : Value) : Build Value := do
  let metadata <- at! runlog "metadata"
  let status <- at! runlog "status"
  let state <- at! status "state"
  let kind <- at! status "type"
  let name <-
    if kind.isText "task_runlog" then path! status ["task_reference", "name"]
    else if kind.isText "runbook_runlog" then
      if <- compareValues .mem (.str "call_runbook_reference") status then
        path! status ["call_runbook_reference", "name"]
      else path! status ["runbook_reference", "name"]
    else if kind.isText "action_runlog" &&
        (<- compareValues .mem (.str "action_reference") status) then
      path! status ["action_reference", "name"]
    else if kind.isText "app" then return <- at! status "name"
    else return .str "root"
  let created <- secondsOf (<- at! metadata "creation_time")
  let user <- if <- compareValues .mem (.str "userdata_reference") status then
      path! status ["userdata_reference", "name"]
    else pure .none
  let updated <- secondsOf (<- at! metadata "last_update_time")
  let mut lines := [name.toText ++ " (Status: " ++ state.toText ++ ")"]
  if kind.isText "action_runlog" then
    lines := lines ++ ["\tRunlog UUID: " ++ (<- at! metadata "uuid").toText]
  lines := lines ++ ["\tStarted: " ++ ctime created]
  if user.truthy then lines := lines ++ ["\tRun by: " ++ user.toText]
  if isOneOf state finishedRunStates then lines := lines ++ ["\tFinished: " ++ ctime updated]
  else lines := lines ++ ["\tLast Updated: " ++ ctime updated]
  pure (.str ("\n".intercalate lines))

/-- Draws a tree of run logs by their summaries. The JSON text of a summary writes its line
    breaks and tabs as escapes: the text is split at the escaped breaks, and a piece with an
    escaped tab is written under the branch, without its tabs. -/
def drawSummaries (t : RunlogTree) : Build Unit := do
  for (pre, fill, i) in treeRows t.children (t.nodes.size + 1) [] 0 do
    let text <- jsonText (<- runlogSummary (t.nodes[i]?.getD default).runlog)
    for line in text.splitOn "\\n" do
      if (line.splitOn "\\t").length > 1 then screenLine (fill ++ line.replace "\\t" "")
      else screenLine (pre ++ line)

/-- A tree whose root is the given run log, with each run log hung under it in order; the
    index maps each uuid to its last node. -/
def rootedTree (root : Value) (rootKey : String) (sorted : List Value) : Build RunlogTree := do
  let mut nodes : Array RunlogNode := #[{ runlog := root }]
  let mut index : List (String × Nat) := [(rootKey, 0)]
  for runlog in sorted do
    let key := uuidKey (<- path! runlog ["metadata", "uuid"])
    index := (index.filter (·.1 != key)) ++ [(key, nodes.size)]
    nodes := nodes.push { runlog, parent := some 0, stamp := nodes.size }
  pure { nodes, index }

/-- Hangs each run log under the node of the uuid its status refers to by `reference`. A node
    moved to another parent goes last among that parent's children; a node cannot hang under
    itself or under a node below it. -/
def hangRunlogs (t : RunlogTree) (sorted : List Value) (reference : String) :
    Build RunlogTree := do
  let mut tree := t
  let mut stamp := tree.nodes.size
  for runlog in sorted do
    let key := uuidKey (<- path! runlog ["metadata", "uuid"])
    let some i := tree.index.lookup key | throw (.missingKey (quoted key))
    let parentKey := uuidKey (<- path! runlog ["status", reference, "uuid"])
    let some p := tree.index.lookup parentKey | throw (.missingKey (quoted parentKey))
    if tree.nodes[i]?.bind (·.parent) != some p then
      if tree.isAncestor i (tree.nodes.size + 1) p then
        throw (.system "LoopError" "Cannot set parent: a node cannot hang under itself.")
      stamp := stamp + 1
      tree := { tree with nodes := tree.nodes.modify i fun n => { n with parent := some p, stamp } }
  pure tree

/-- How many run logs of a kind there are, and how many of them succeeded. -/
def successShare (sorted : List Value) (kind : String) : Build (Nat × Nat) := do
  let mut total := 0
  let mut done := 0
  for runlog in sorted do
    if (<- path! runlog ["status", "type"]).isText kind then
      total := total + 1
      if <- compareValues .mem (<- path! runlog ["status", "state"]) (.str "SUCCESS") then
        done := done + 1
  pure (done, total)

/-- Writes the share of succeeded run logs as a percentage, when there are any. -/
def showProgress (done total : Nat) : Build Unit :=
  if total != 0 then screenLine ("Progress: " ++ percentText done total ++ "%") else pure ()

/-- Looks at the run logs of an application's actions: draws their tree, and tells whether
    they have all finished. Describing only draws the tree; watching also writes the share
    that succeeded and a message below, which names a failure when one run log failed. -/
def appRunsComplete (appId appName : Value) (describing : Bool) (response : Value) :
    Build (Bool × String) := do
  let entities <- at! response "entities"
  if (<- lengthOf entities) == 0 then return (false, "")
  let sorted <- sortedRunlogs entities
  let root := dictOf [("metadata", dictOf [("uuid", appId)]),
    ("status", dictOf [("type", .str "app"), ("state", .str ""), ("name", appName)])]
  let tree <- hangRunlogs (<- rootedTree root (uuidKey appId) sorted) sorted "application_reference"
  let (done, total) <- successShare sorted "action_runlog"
  if !describing then showProgress done total
  drawSummaries tree
  let mut msg := ""
  let mut complete := true
  if !describing then
    for runlog in sorted do
      let state <- path! runlog ["status", "state"]
      if isOneOf state failedRunStates then msg := "Action failed."
      if !isOneOf state finishedRunStates then complete := false
  if complete && msg.isEmpty then msg := "Action ran successfully."
  if !describing then screenLine msg
  pure (complete, msg)

/-- Looks at the run logs of one run of an action: draws their tree under the run, and tells
    whether the run has ended, and how. -/
def actionRunComplete (response : Value) : Build (Bool × String) := do
  let entities <- at! response "entities"
  if (<- lengthOf entities) == 0 then return (false, "")
  let sorted <- sortedRunlogs entities
  let some first := sorted.head? | return (false, "")
  let rootUuid <- path! first ["status", "root_reference", "uuid"]
  let root := dictOf [("metadata", dictOf [("uuid", rootUuid)]),
    ("status", dictOf [("type", .str "action_runlog"), ("state", .str "")])]
  let tree <- hangRunlogs (<- rootedTree root (uuidKey rootUuid) sorted) sorted "parent_reference"
  let (done, total) <- successShare sorted "task_runlog"
  showProgress done total
  drawSummaries tree
  for runlog in sorted do
    let state <- path! runlog ["status", "state"]
    if isOneOf state failedRunStates then
      screenLine "Action failed."
      return (true, "Action failed.")
    if !isOneOf state finishedRunStates then return (false, "")
  screenLine "Action ran successfully."
  pure (true, "Action ran successfully.")

/-- The longest an application's runs are watched, in seconds. -/
def appWatchSeconds : Int := 300

/-- Watches the runs of an application's actions until they have all finished, looking at them
    every `interval` seconds. -/
def watchAppRuns (app appName : Value) (describing : Bool) (interval : Int := 10) :
    Build Unit := do
  let appId <- path! app ["metadata", "uuid"]
  let filter := "application_reference==" ++ appId.toText ++
    ";(type==action_runlog,type==audit_runlog,type==ngt_runlog,type==clone_action_runlog)"
  let _ <- pollRun (postAt (applications.item appId ++ "/app_runlogs/list")
      (dictOf [("filter", .str filter)]))
    (appRunsComplete appId appName describing) interval appWatchSeconds
  pure ()

/-- Watches one run of an action of an application until it ends. -/
def watchActionRun (runlogUuid : Value) (appName : String) (interval : Int) : Build Unit := do
  let app <- findApp appName
  let appId <- path! app ["metadata", "uuid"]
  let filter := "root_reference==" ++ runlogUuid.toText
  let _ <- pollRun (postAt (applications.item appId ++ "/app_runlogs/list")
      (dictOf [("filter", .str filter)]))
    actionRunComplete interval appWatchSeconds
  pure ()

def withoutLead (lead : String) (name : Value) : String :=
  let text := name.toText
  if text.startsWith lead then String.ofList (text.toList.drop lead.length) else text

def describeApp (values : ParamValues) : Build Unit := do
  let _ <- serverSettings
  let app <- findApp (textValue values "app_name") true
  if textValue values "out" == "json" then
    printJson app
    return
  echo "\n----Application Summary----\n"
  let metadata <- at! app "metadata"
  let name <- at! metadata "name"
  echo ("Name: " ++ name.toText ++ " (uuid: " ++ (<- at! metadata "uuid").toText ++ ")")
  let status <- at! app "status"
  echo ("Status: " ++ (<- at! status "state").toText)
  print ("Owner: " ++ (<- path! metadata ["owner_reference", "name"]).toText)
  echo (" Project: " ++ (<- path! metadata ["project_reference", "name"]).toText)
  let resources <- at! status "resources"
  echo ("Blueprint: " ++ (<- path! resources ["app_blueprint_reference", "name"]).toText)
  let created <- secondsOf (<- at! metadata "creation_time")
  echo ("Created: " ++ ctime created ++ " (" ++ ago created ++ ")")
  echo ("Application Profile: " ++
    (<- path! resources ["app_profile_config_reference", "name"]).toText)
  let deployments <- at! resources "deployment_list"
  echo ("Deployments [" ++ toString (<- lengthOf deployments) ++ "]:")
  for d in <- iterate deployments do
    echo ("\t " ++ (<- at! d "name").toText ++ " " ++ (<- at! d "state").toText)
  let actions <- at! resources "action_list"
  echo ("App Actions [" ++ toString (<- lengthOf actions) ++ "]:")
  for a in <- iterate actions do echo ("\t" ++ withoutLead "action_" (<- at! a "name"))
  let patches <- at! resources "patch_list"
  echo ("App Patches [" ++ toString (<- lengthOf patches) ++ "]:")
  for p in <- iterate patches do echo ("\t" ++ withoutLead "patch_" (<- at! p "name"))
  let declaredVars <- at! resources "variable_list"
  echo ("App Variables [" ++ toString (<- lengthOf declaredVars) ++ "]")
  for v in <- iterate declaredVars do
    echo ("\t" ++ (<- at! v "name").toText ++ ": " ++ (<- at! v "value").toText ++ "  # " ++
      (<- at! v "label").toText)
  echo "App Runlogs:"
  watchAppRuns app name true
  echo ("# Hint: You can run actions on the app using: calm run action <action_name> --app " ++
    name.toText)

def watchApp (values : ParamValues) : Build Unit := do
  let _ <- serverSettings
  let name := textValue values "app_name"
  watchAppRuns (<- findApp name) (.str name) false
  logInfo ("Action runs completed for app " ++ name)

/-- The polling interval given on the command line. -/
def pollInterval (values : ParamValues) : Int :=
  match values.lookup "poll_interval" with
  | some (.int n) => n
  | _ => 10

def watchActionRunlog (values : ParamValues) : Build Unit := do
  let _ <- serverSettings
  let uuid := textValue values "runlog_uuid"
  let name := textValue values "app_name"
  watchActionRun (.str uuid) name (pollInterval values)
  logInfo ("Action run " ++ uuid ++ " completed for app " ++ name)

/-- Deletes applications by name, softly or not, each by the action the server runs for it. -/
def deleteApps (names : List String) (soft : Bool) : Build Unit := do
  for name in names do
    let app <- findApp name
    let appId <- path! app ["metadata", "uuid"]
    let label := if soft then "Soft Delete" else "Delete"
    logInfo ("Triggering " ++ label)
    let endpoint := applications.item appId ++ (if soft then "?type=soft" else "")
    let outcome <- Call.send { method := .delete, endpoint }
    if let some err := outcome.error then raiseError err
    logInfo (label ++ " action triggered")
    let response <- outcome.json
    logInfo ("Action runlog uuid: " ++ (<- path! response ["status", "runlog_uuid"]).toText)

def deleteNamedApps (values : ParamValues) : Build Unit := do
  let _ <- serverSettings
  let names := match values.lookup "app_names" with
    | some (.tuple xs) | some (.list xs) => xs.map Value.toText
    | _ => []
  deleteApps names (flagValue values "soft")

/-- `download action_runlog`: the output of a run, saved as a file. -/
def downloadActionRunlog (values : ParamValues) : Build Unit := do
  let _ <- serverSettings
  let uuid := textValue values "runlog_uuid"
  let app <- findApp (textValue values "app_name")
  let appId <- path! app ["metadata", "uuid"]
  let file := match textValue? values "file_name" with
    | some f => if f.isEmpty then "runlog_" ++ uuid ++ ".zip" else f
    | none => "runlog_" ++ uuid ++ ".zip"
  let outcome <- getAt (applications.item appId ++ "/app_runlogs/" ++ uuid ++ "/output/download")
  match outcome.error, outcome.response with
  | none, some res =>
    let content <- match res.content with
      | .text t => pure t
      | .json j => pure (render {} j)
    writeAt (absolutePath file) content
    echo ("Runlogs saved as " ++ file)
  | some err, _ =>
    logError ("[" ++ (<- at! err "code").toText ++ "] - " ++ (<- at! err "error").toText)
  | none, none => pure ()

/-- An answer converted as the command line converts a value to the type of a sample: texts
    stay texts, integers, numbers and truth values are read from text, a list takes the
    characters of a text, and a dictionary cannot be made from a text that is not empty. -/
def convertLikeSample (sample given : Value) : Build (Except String Value) :=
  match sample, given with
  | .str _, v => pure (.ok (.str v.toText))
  | .int _, .str s => pure (match readInt? s with
    | some n => .ok (.int n)
    | none => .error (quoted s ++ " is not a valid integer."))
  | .int _, .bool b => pure (.ok (.int (if b then 1 else 0)))
  | .int _, v => pure (.ok v)
  | .float _, .str s => pure (match Text.NumberText.read? s with
    | some (.finite d) => .ok (.float d)
    | _ => .error (quoted s ++ " is not a valid float."))
  | .float _, v => pure (.ok v)
  | .bool _, .str s => pure (readFlag s)
  | .bool _, v => pure (.ok v)
  | .none, .str _ => throw (.wrongType "NoneType takes no arguments")
  | .list _, .str s => pure (.ok (.list (s.toList.map fun c => .str c.toString)))
  | .dict _, .str s =>
    pure (if s.isEmpty then .ok (.dict []) else .error s)
  | _, v => pure (.ok v)

/-- An answer that must be one of the given choices. -/
def convertChoice (choices : List Value) (given : Value) : Except String Value :=
  match choices.find? (·.equal given) with
  | some c => .ok c
  | none => .error (given.repr ++ (if choices.length == 1 then " is not " else " is not one of ") ++
      ", ".intercalate (choices.map Value.repr) ++ ".")

/-- The list that a file of launch parameters defines under a name. The file must exist and be
    a file of the blueprint language. -/
def launchParameter (r : Runtime) (file key : String) : Build Value := do
  if !((<- entryAt? (absolutePath file)).isSome && file.endsWith ".py") then
    exitWith "Invalid launch_params passed! Must be a valid and existing.py file!"
  importVariable r file key (.list [])

/-- The value that launch parameters give a variable: none when none names it, and an error when
    several do. -/
def launchValueOf (launchVars name : Value) : Build Value := do
  let mut matching : List Value := []
  for e in <- iterate launchVars do
    if (<- at! e "name").equal name then matching := matching ++ [e]
  if matching.length > 1 then
    exitWith ("Unable to populate runtime editables: Multiple matches for value of " ++
      "variable '" ++ name.toText ++ "'")
  match matching with
  | [e] => getOr (<- getOr e "value" emptyDict) "value" .none
  | _ => pure .none

/-- The arguments of an action's run: those the server gives for its variables, with the values
    of its runtime variables asked for, or read from a file of parameters. -/
def actionRuntimeArgs (r : Runtime) (appId action : Value) (editable : Bool)
    (paramsFile : Option String) : Build Value := do
  let actionName <- at! action "name"
  let declared <- getOr (<- at! action "runbook") "variable_list" .none
  let mut runtimeVars : List (Value × Value) := []
  for entry in <- iterate (if declared.truthy then declared else .list []) do
    let editables <- getOr entry "editables" .none
    if (<- getOr (if editables.truthy then editables else emptyDict) "value" (.bool false)).truthy then
      let name <- at! entry "name"
      runtimeVars := (runtimeVars.filter fun (k, _) => !k.equal name) ++ [(name, entry)]
  let args <- (<- getAt (applications.item appId ++ "/actions/" ++ actionName.toText ++
    "/variables")).jsonOrRaise
  if !(editable && !runtimeVars.isEmpty) then
    return if args.truthy then args else .list []
  let runtimeVar? (name : Value) := (runtimeVars.find? (·.1.equal name)).map (·.2)
  let mut out : List Value := []
  if let some file := paramsFile then
    echo "Patching values for runtime variables under action ..."
    let parsed <- launchParameter r file "variable_list"
    for arg in <- iterate args do
      let name <- at! arg "name"
      let mut arg := arg
      if (runtimeVar? name).isSome then
        let newValue <- launchValueOf parsed name
        if !(match newValue with | .none => true | _ => false) then
          arg <- setKey arg "value" newValue
      out := out ++ [arg]
  else
    echo "Found runtime variables in action. Please provide values for runtime variables"
    for arg in <- iterate args do
      let name <- at! arg "name"
      let mut arg := arg
      if let some entry := runtimeVar? name then
        let options <- getOr entry "options" emptyDict
        let choices <- getOr options "choices" (.list [])
        echo ""
        if choices.truthy then
          echo "Choose from given choices: "
          for c in <- iterate choices do echo ("\t" ++ c.repr)
        let default <- at! arg "value"
        let secret := (<- getOr entry "type" .none).isText "SECRET"
        let shown := if secret then "*****" else default.toText
        let choiceList <- if choices.truthy then iterate choices else pure []
        let newValue <- askValue ("Value for variable '" ++ name.toText ++ "' [" ++ shown ++ "]")
          default secret fun given =>
            if choiceList.isEmpty then convertLikeSample default given
            else pure (convertChoice choiceList given)
        arg <- setKey arg "value" newValue
      out := out ++ [arg]
  match args with
  | .list _ => pure (.list out)
  | other => pure other

/-- The argument that names the snapshot a snapshot configuration takes. -/
def snapshotNameArg (config taskId : Value) : Build Value := do
  let mut default : Value := .str ""
  for entry in <- iterate (<- at! config "variable_list") do
    if (<- at! entry "name").isText "snapshot_name" then
      default <- at! entry "value"
      break
  let value <- askValue ("Value for Snapshot Name [" ++ default.repr ++ "]") default false
    (convertLikeSample default)
  pure (dictOf [("name", .str "snapshot_name"), ("value", value), ("task_uuid", taskId)])

/-- Seconds from a count of microseconds, as floor division does it. -/
def microsToSeconds (v : Value) : Build Int :=
  match v with
  | .int n => pure (Int.fdiv n 1000000)
  | .bool _ => pure 0
  | .float d => pure (if d.exponent ≥ 0 then Int.fdiv (d.mantissa * Int.pow 10 d.exponent.toNat) 1000000
      else Int.fdiv d.mantissa (Int.pow 10 (-d.exponent).toNat * 1000000))
  | v => throw (.wrongType ("unsupported operand type(s) for //: '" ++ v.typeName ++ "' and 'int'"))

/-- The argument that chooses the recovery group a restore configuration restores from; the
    user picks one of the groups by its number. -/
def recoveryGroupArg (taskId groups : Value) : Build Value := do
  let mut choices : List (Nat × String × Value) := []
  for (group, i) in (<- iterate groups).zipIdx do
    let status <- at! group "status"
    let name <- at! status "name"
    let info <- subscript (<- at! status "recovery_point_info_list") (.int 0)
    let created <- microsToSeconds (<- at! info "creation_time")
    let expires <- microsToSeconds (<- at! info "expiration_time")
    let label := toString (i + 1) ++ ". " ++ name.toText ++ " [Created On: " ++
      stampText created ++ " Expires On: " ++ stampText expires ++ "]"
    choices := choices ++ [(i + 1, label, <- at! status "uuid")]
  if choices.isEmpty then
    exitWith "No recovery group found. Please take a snapshot before running restore action"
  echo "Choose from given choices: "
  for (choice : Nat × String × Value) in choices do echo ("\t" ++ (Value.str choice.2.1).repr)
  let selected <- askValue "Selected Recovery Group [1]" (.int 1) false
    (convertLikeSample (.int 1))
  let chosen : Option (Nat × String × Value) := match selected with
    | .int n => choices.find? fun c => (c.1 : Int) == n
    | _ => none
  let some (_, _, uuid) := chosen
    | exitWith ("Invalid value " ++ selected.toText ++ ", not present in choices: " ++
        "dict_keys([" ++ ", ".intercalate (choices.map fun c => toString c.1) ++ "])")
  pure (dictOf [("name", .str "recovery_point_group_uuid"), ("value", uuid),
    ("task_uuid", taskId)])

/-- The first item of a list that a test picks; running out of items stops as the language
    stops an iteration. -/
def firstWhere (items : List Value) (test : Value -> Build Bool) : Build Value := do
  for item in items do
    if <- test item then return item
  throw (.system "StopIteration" "")

/-- Runs an action of an application by its name, and watches the run or says how to. -/
def runAction (r : Runtime) (appName actionName : String) (watch editable : Bool)
    (paramsFile : Option String) : Build Unit := do
  let _ <- serverSettings
  let lower := actionName.toLower
  if lower == "create" then
    echo ("The Create Action is triggered automatically when you deploy a blueprint. It " ++
      "cannot be run separately.")
    return
  if lower == "delete" then
    deleteApps [appName] false
    return
  if lower == "soft_delete" then
    deleteApps [appName] true
    return
  let app <- findApp appName
  let spec <- at! app "spec"
  let appId <- path! app ["metadata", "uuid"]
  let mut found : Option Value := none
  for action in <- iterate (<- path! spec ["resources", "action_list"]) do
    let name <- at! action "name"
    if name.isText ("action_" ++ lower) || name.isText actionName then
      found := some action
      break
  let some action := found
    | exitWith ("No action found matching name " ++ actionName)
  let actionId <- at! action "uuid"
  let mut args <- actionRuntimeArgs r appId action editable paramsFile
  let (status, app) <- pop app "status"
  let resources <- at! status "resources"
  let configs := (<- iterate (<- at! resources "snapshot_config_list")) ++
    (<- iterate (<- at! resources "restore_config_list"))
  for task in <- iterate (<- path! action ["runbook", "task_definition_list"]) do
    if (<- at! task "type").isText "CALL_CONFIG" then
      let config <- firstWhere configs fun c => do
        pure ((<- at! c "uuid").equal (<- path! task ["attrs", "config_spec_reference", "uuid"]))
      let kind <- at! config "type"
      if kind.isText "AHV_SNAPSHOT" then
        args <- appendTo args (<- snapshotNameArg config (<- at! task "uuid"))
      else if kind.isText "AHV_RESTORE" then
        let mut substrateId : Value := .none
        for dep in <- iterate (<- at! resources "deployment_list") do
          let target <- path! (<- subscript (<- at! config "attrs_list") (.int 0))
            ["target_any_local_reference", "uuid"]
          if (<- at! dep "uuid").equal target then
            substrateId <- path! dep ["substrate_configuration", "uuid"]
            break
        let filter <- if substrateId.truthy then arith .add (.str "substrate_reference==") substrateId
          else pure (.str "")
        let taskId <- at! task "uuid"
        let groups <- (<- postAt (applications.item appId ++ "/recovery_groups/list")
          (dictOf [("filter", filter), ("length", .int 250), ("offset", .int 0)])).jsonOrRaise
        args <- appendTo args (<- recoveryGroupArg taskId (<- at! groups "entities"))
  let app <- setKey app "spec" (dictOf [("args", args), ("target_kind", .str "Application"),
    ("target_uuid", appId)])
  let response <- (<- postAt (applications.item appId ++ "/actions/" ++ actionId.toText ++ "/run")
    app).jsonOrRaise
  let runlogUuid <- path! response ["status", "runlog_uuid"]
  echo ("Action is triggered. Got Action Runlog uuid: " ++ runlogUuid.toText)
  if watch then
    screenLine ("Fetching runlog tree for action '" ++ actionName ++ "'")
    watchActionRun runlogUuid appName 10
  else
    echo ""
    echo ("# Hint1: You can run action in watch mode using: calm run action " ++ actionName ++
      " --app " ++ appName ++ " --watch")
    echo ("# Hint2: You can watch action runlog on the app using: calm watch action_runlog " ++
      runlogUuid.toText ++ " --app " ++ appName)
where
  appendTo (args item : Value) : Build Value :=
    match args with
    | .list xs => pure (.list (xs ++ [item]))
    | v => throw (v.noAttribute "append")

def runNamedAction (r : Runtime) (values : ParamValues) : Build Unit :=
  runAction r (textValue values "app_name") (textValue values "action_name")
    (flagValue values "watch") (!flagValue values "ignore_runtime_variables")
    (textValue? values "runtime_params_file")

/-- `start app`, `stop app` and `restart app`: the action of that name. -/
def runSystemAction (r : Runtime) (action : String) (values : ParamValues) :
    Build Unit :=
  runAction r (textValue values "app_name") action (flagValue values "watch") false none

end Blueprints.Cli
