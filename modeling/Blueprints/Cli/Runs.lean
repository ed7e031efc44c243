import Blueprints.Cli.Runlog
import Blueprints.Cli.Create

namespace Blueprints.Cli

open Library Http Api Build Text Api

def runbooks : Api.Resource := .named "RunbookAPI" "runbooks"

/-- The path of a run of runbooks, with what follows it. -/
def runPath (uuid : String) (rest : String := "") : String :=
  runbooks.base ++ "/runlogs/" ++ uuid ++ rest

/-- Polls until a look at the answer says the run is complete, `interval` seconds apart for at
    most `maxWait` seconds. Answers whether to go on: a run that completed with a message
    stops. A poll that fails raises its error. An interval that does not advance polls until the
    server stops answering. -/
def pollRun (poll : Build Outcome) (complete : Value -> Build (Bool × String))
    (interval maxWait : Int) : Build Bool := do
  let rounds := if interval ≤ 0 then 1000 else ((maxWait + interval - 1) / interval).toNat
  for _ in List.range rounds do
    let response <- (<- poll).jsonOrRaise
    let (done, msg) <- complete response
    if done then return msg.isEmpty
  pure true

/-- Looks at the state of a run: a pending run is reported and looked at again; a failed run is
    reported with its reasons, and stops the watch when it has reasons. -/
def runStateVerdict (response : Value) : Build (Bool × String) := do
  let state <- path! response ["status", "state"]
  if state.isText "PENDING" then
    screenLine "Runlog run is in PENDING state"
    return (false, "Runlog run is in PENDING state")
  if isOneOf state failedRunStates then
    let reasons <- path! response ["status", "reason_list"]
    let msg := "Runlog run is in " ++ state.toText ++ " state." ++ " " ++ (<- joinTexts "\n" reasons)
    screenLine msg
    if reasons.equal (.list []) then return (true, "")
    return (true, msg)
  pure (true, "")

/-- Watches the run logs of a run of a runbook until the run ends. -/
def watchRunbook (runlogUuid : String) (runbook : Value) : Build Unit := do
  let tasks <- at! runbook "task_definition_list"
  let main <- path! runbook ["main_task_local_reference", "uuid"]
  let mut types : List (Value × Value) := []
  let mut topLevel : List Value := []
  for task in <- iterate tasks do
    let uuid <- getOr task "uuid" .none
    let kind <- getOr task "type" (.str "")
    types := (types.filter fun (k, _) => !k.equal uuid) ++ [(uuid, kind)]
    if uuid.equal main then
      for t in <- iterate (<- getOr task "child_tasks_local_reference_list" (.list [])) do
        topLevel := topLevel ++ [<- getOr t "uuid" (.str "")]
  let _ <- pollRun (postAt (runPath runlogUuid "/children/list") emptyDict)
    (runbookRunComplete (.str runlogUuid) types topLevel) 10 600

/-- The runbook of a run, as the server gives it with the run. -/
def runRunbookJson (runlogUuid : String) : Build Value := do
  let response <- (<- getAt (runPath runlogUuid)).jsonOrRaise
  path! response ["status", "runbook_json", "resources", "runbook"]

def watchRunbookExecution (values : ParamValues) : Build Unit := do
  let _ <- serverSettings
  let uuid := textValue values "runlog_uuid"
  if !(<- pollRun (getAt (runPath uuid)) runStateVerdict 10 600) then throw (.exit "-1")
  watchRunbook uuid (<- runRunbookJson uuid)

/-- Shows the address and the state of a run. -/
def showRun (uuid : String) (state : Value) : Build Unit := do
  let link <- consoleLink "runbooks/runlogs" (.str uuid)
  printJson (dictOf [("link", .str link), ("state", state)])

def pauseRunbookExecution (values : ParamValues) : Build Unit := do
  let _ <- serverSettings
  let uuid := textValue values "runlog_uuid"
  let response <- (<- postAt (runPath uuid "/pause") emptyDict).jsonOrRaise
  let state <- path! response ["status", "state"]
  if isOneOf state finishedRunStates then logWarning "Runbook Execution is in terminal state."
  else logInfo "Pause triggered for the given runbook execution."
  showRun uuid state

def resumeRunbookExecution (values : ParamValues) : Build Unit := do
  let _ <- serverSettings
  let uuid := textValue values "runlog_uuid"
  let response <- (<- postAt (runPath uuid "/play") emptyDict).jsonOrRaise
  let state <- path! response ["status", "state"]
  if state.isText "PAUSED" then
    logInfo "Resume triggered for the given paused runbook execution."
  else logWarning "Runbook execution is not in paused state."
  showRun uuid state

def abortRunbookExecution (values : ParamValues) : Build Unit := do
  let _ <- serverSettings
  let uuid := textValue values "runlog_uuid"
  let current <- (<- getAt (runPath uuid)).jsonOrRaise
  let state <- path! current ["status", "state"]
  if isOneOf state finishedRunStates then
    logWarning ("Runbook Execution is in terminal state: " ++ state.toText)
    throw (.exit "0")
  let response <- (<- postAt (runPath uuid "/abort") emptyDict).jsonOrRaise
  let state <- path! response ["status", "state"]
  logInfo "Abort triggered for the given runbook execution."
  showRun uuid state

/-- The runbook of a name, among those not deleted unless `all` is set, as the server lists it. -/
def runbookNamed (name : String) (all : Bool := false) : Build Value := findRunbook name all

/-- The endpoint of a name, among those not deleted. -/
def endpointNamed (name : String) : Build Value := do
  let filter := "name==" ++ name ++ ";deleted==FALSE"
  let entities <- findByName (.named "EndpointAPI" "endpoints") filter "endpoint" name
  logInfo (name ++ " found ")
  subscript entities (.int 0)

/-- Reads a line of the standard input after writing a prompt; the line is not written back. At
    the end of the input, reading fails. -/
def inputLine (prompt : String) : Build String := do
  print prompt
  match <- readLine with
  | some line => pure line
  | none => throw (.system "EOFError" "EOF when reading a line")

/-- A value given as text, converted to the type of a variable's value. -/
def convertLike (sample : Value) (given : Value) : Build Value :=
  match sample with
  | .str _ => pure (.str given.toText)
  | .int _ => do pure (.int (<- integerOf given))
  | .bool _ => pure (.bool given.truthy)
  | .none => throw (.wrongType "NoneType takes no arguments")
  | v => throw (.wrongType ("cannot convert a value to " ++ v.typeName))

/-- The reference to an endpoint of a name, as a run's default target. -/
def targetReference (name : String) : Build Value := do
  let endpoint <- endpointNamed name
  let uuid <- getOr (<- getOr endpoint "metadata" emptyDict) "uuid" (.str "")
  pure (dictOf [("kind", .str "app_endpoint"), ("uuid", uuid), ("name", .str name)])

def editableVariables (runbook : Value) : Build (List Value) := do
  let body <- path! runbook ["spec", "resources", "runbook"]
  let mut out : List Value := []
  for entry in <- iterate (<- getOr body "variable_list" (.list [])) do
    if (<- getOr (<- getOr entry "editables" emptyDict) "value" (.bool false)).truthy then
      out := out ++ [entry]
  pure out

/-- The values of a run asked for on the standard input: a value for each editable variable,
    then the default endpoint. An empty answer keeps what the runbook has. -/
def askRunValues (runbook : Value) : Build Value := do
  let mut args : List Value := []
  for entry in <- editableVariables runbook do
    let name <- getOr entry "name" .none
    let value <- getOr entry "value" (.str "")
    let given <- inputLine ("Value for Variable " ++ name.toText ++ " in Runbook (default value=" ++
      value.toText ++ "): ")
    if !given.isEmpty then
      args := args ++ [dictOf [("name", name),
        ("value", <- convertLike (<- getOr entry "value" .none) (.str given))]]
  let resources <- path! runbook ["spec", "resources"]
  let defaultTarget <- getOr (<- getOr resources "default_target_reference" emptyDict) "name" .none
  let target <- inputLine ("Endpoint target for the Runbook Run (default target=" ++
    defaultTarget.toText ++ "): ")
  let mut spec := dictOf [("args", .list args)]
  if !target.isEmpty then spec <- setKey spec "default_target_reference" (<- targetReference target)
  pure (dictOf [("spec", spec)])

/-- A variable that a file defines, or a default when the file fails to run or defines none. -/
def importVariable (r : Runtime) (file name : String) (default : Value) : Build Value := do
  let saved := (<- get).globals
  let found <- tryCatch (do
      let names <- loadFile r file
      pure ((names.find? (·.1 == name)).map (·.2)))
    fun _ => pure none
  modify fun s => { s with globals := saved }
  pure (found.getD default)

/-- The values of a run read from a file of inputs: its `variable_list` gives values of the
    editable variables, its `default_target` the default endpoint. -/
def fileRunValues (r : Runtime) (runbook : Value) (file : String) : Build Value := do
  if !((<- Files.entryAt? (absolutePath file)).isSome && file.endsWith ".py") then
    exitWith "Invalid input_file passed! Must be a valid and existing.py file!"
  let inputs <- importVariable r file "variable_list" (.list [])
  let target <- importVariable r file "default_target" (.str "")
  let mut args : List Value := []
  for entry in <- editableVariables runbook do
    let name <- getOr entry "name" .none
    let mut matching : List Value := []
    for given in <- iterate inputs do
      if (<- at! given "name").equal name then matching := matching ++ [given]
    let newValue <- match matching with
      | [given] => getOr given "value" (.str "")
      | _ => pure (.str "")
    if newValue.truthy then
      args := args ++ [dictOf [("name", name),
        ("value", <- convertLike (<- getOr entry "value" .none) newValue)]]
  let mut spec := dictOf [("args", .list args)]
  if target.truthy then
    spec <- setKey spec "default_target_reference" (<- targetReference target.toText)
  pure (dictOf [("spec", spec)])

/-- Follows a run that a call queued: waits while it is pending, and then shows the address of
    the run, or watches it. A call that failed raises its error. -/
def followRun (queued : Outcome) (watch : Bool) : Build Unit := do
  if let some err := queued.error then raiseError err
  screenLine "Runbook queued for run"
  let runlogUuid := (<- path! (<- queued.json) ["status", "runlog_uuid"]).toText
  if !(<- pollRun (getAt (runPath runlogUuid)) runStateVerdict 10 600) then return
  let runbook <- runRunbookJson runlogUuid
  if watch then watchRunbook runlogUuid runbook
  let link <- consoleLink "runbooks/runlogs" (.str runlogUuid)
  if !watch then screenLine ("Runbook execution url: " ++ link)

/-- Runs a runbook of the server: queues the run and follows it. -/
def runRunbookOnce (runbookUuid : Value) (watch : Bool) (payload : Value) : Build Unit := do
  let version := (<- get).version
  let action := if versionLt version "3.3.2" then "/run" else "/execute"
  followRun (<- postAt (runbooks.item runbookUuid ++ action) payload) watch

/-- The runbook of a run and its uuid: one uploaded from a file under a fresh name, or one of
    the server found by name. A runbook that cannot be had is reported and gives none. -/
def runbookForRun (r : Runtime) (file : Option String) (name : String) :
    Build (Option (Value × Value)) := do
  match file with
  | some f =>
    logInfo ("Uploading runbook: " ++ f)
    let uploadName := "runbook_" ++ (<- Build.freshShort)
    if !(f.endsWith ".json" || f.endsWith ".py") then
      logError ("Unknown file format " ++ f)
      return none
    let outcome <- if f.endsWith ".json" then
        uploadRunbookPayload (<- readJsonFile f) (some uploadName) none false
      else do
        match <- runbookOf r f with
        | some payload => uploadRunbookPayload (.ofJson payload) (some uploadName) none false
        | none => pure ⟨none, some (dictOf [("error", .str ("User runbook not found in " ++ f)),
            ("code", .int (-1))])⟩
    if let some err := outcome.error then
      logError (<- at! err "error").toText
      return none
    logInfo ("Uploaded runbook: " ++ f)
    let runbook <- outcome.json
    pure (some (runbook, <- path! runbook ["metadata", "uuid"]))
  | none =>
    let found <- runbookNamed name
    let uuid <- path! found ["metadata", "uuid"]
    let outcome <- runbooks.read uuid
    if let some err := outcome.error then
      logError (<- at! err "error").toText
      return none
    pure (some (<- outcome.json, uuid))

def runRunbook (r : Runtime) (values : ParamValues) : Build Unit := do
  let file := textValue? values "runbook_file"
  let name := textValue? values "runbook_name"
  if file.isNone && name.isNone then
    logError "One of either Runbook Name or Runbook File is required to run runbook."
    return
  let _ <- serverSettings
  let some (runbook, runbookUuid) <- runbookForRun r file (name.getD "") | return
  let inputFile := textValue? values "input_file"
  let mut payload := emptyDict
  if inputFile.isNone && !flagValue values "ignore_runtime_variables" then
    payload <- askRunValues runbook
  if let some f := inputFile then payload <- fileRunValues r runbook f
  runRunbookOnce runbookUuid (flagValue values "watch") payload
  if file.isSome then
    let deleted <- runbooks.delete runbookUuid
    if let some err := deleted.error then raiseError err

/-- A node of the tree of a runbook's tasks: its name, type and target. -/
inductive TaskTree where
  | node (name type target : Value) (children : List TaskTree)
deriving Inhabited

/-- The tree of the tasks below a task of a runbook: the node of the task itself, and the nodes
    it hangs under the node above it. A flow of tasks starts a tree of its own that hangs under
    nothing; a meta task hangs its children under the node above it; a decision has a branch
    for success and one for failure. The fuel bounds the depth. -/
def taskTree (tasks : List (Value × Value)) : Nat -> Value -> Build (Option TaskTree × List TaskTree)
  | 0, _ => throw .tooDeep
  | fuel + 1, uuid => do
    let task <- valueAt tasks uuid
    let name <- getOr task "name" (.str "")
    let target <- getOr (<- getOr task "target_any_local_reference" emptyDict) "name" (.str "")
    let kind <- getOr task "type" (.str "")
    let under (ref : Value) : Build (List TaskTree) := do
      if ref.truthy then pure (<- taskTree tasks fuel ref).2 else pure []
    if kind.isText "DECISION" then
      let attrs <- getOr task "attrs" emptyDict
      let success <- getOr (<- getOr attrs "success_child_reference" emptyDict) "uuid" (.str "")
      let failure <- getOr (<- getOr attrs "failure_child_reference" emptyDict) "uuid" (.str "")
      let branches := [TaskTree.node (.str "SUCCESS") .none .none (<- under success),
        TaskTree.node (.str "FAILURE") .none .none (<- under failure)]
      let node := TaskTree.node name kind target branches
      return (some node, [node])
    let mut hung : List TaskTree := []
    for child in <- iterate (<- getOr task "child_tasks_local_reference_list" (.list [])) do
      hung := hung ++ (<- under (<- getOr child "uuid" .none))
    if kind.isText "DAG" then
      return (some (.node (.str "ROOT") .none .none hung), [])
    if kind.isText "META" then return (none, hung)
    let node := TaskTree.node name kind target hung
    pure (some node, [node])

/-- The rows of a tree of tasks drawn with branches. The fuel bounds the depth. -/
def taskRows : Nat -> List Bool -> TaskTree -> List (String × TaskTree)
  | 0, _, _ => []
  | fuel + 1, continues, t@(.node _ _ _ children) =>
    ((branchRow continues).1, t) :: (children.zipIdx.flatMap fun (c, i) =>
      taskRows fuel (continues ++ [decide (i + 1 < children.length)]) c)

def describeRunbook (values : ParamValues) : Build Unit := do
  let _ <- serverSettings
  let name := textValue values "runbook_name"
  let found <- runbookNamed name true
  let runbook <- (<- runbooks.read (<- path! found ["metadata", "uuid"])).jsonOrRaise
  if textValue values "out" == "json" then
    let (_, rest) <- popOr runbook "status" .none
    return <- printJson rest
  let metadata <- at! runbook "metadata"
  let status <- at! runbook "status"
  print "\n----Runbook Summary----\n\n"
  print ("Name: " ++ name ++ " (uuid: " ++ (<- at! metadata "uuid").toText ++ ")\n")
  print ("Description: " ++ (<- at! status "description").toText ++ "\n")
  print ("Status: " ++ (<- at! status "state").toText ++ "\n")
  print ("Owner: " ++ (<- path! metadata ["owner_reference", "name"]).toText)
  let project <- getOr metadata "project_reference" emptyDict
  print (" Project: " ++ (<- getOr project "name" (.str "")).toText ++ "\n")
  let created <- secondsOf (<- at! metadata "creation_time")
  print ("Created: " ++ ctime created ++ " (" ++ ago created ++ ")\n")
  let updated <- secondsOf (<- at! metadata "last_update_time")
  print ("Last Updated: " ++ ctime updated ++ " (" ++ ago updated ++ ")\n\n")
  let resources <- getOr status "resources" emptyDict
  let body <- getOr resources "runbook" emptyDict
  print "Runbook :\n"
  let mut tasks : List (Value × Value) := []
  for task in <- iterate (<- getOr body "task_definition_list" (.list [])) do
    let uuid <- getOr task "uuid" .none
    tasks := (tasks.filter fun (k, _) => !k.equal uuid) ++ [(uuid, task)]
  let main <- getOr (<- getOr body "main_task_local_reference" .none) "uuid" .none
  let (top, _) <- taskTree tasks (tasks.length + 2) main
  let some top := top
    | throw (.missingAttribute "'NoneType' object has no attribute 'type'")
  for (pre, t) in taskRows (tasks.length + 3) [] top do
    let .node taskName kind target _ := t
    let text := if kind.truthy && target.truthy then
        pre ++ taskName.toText ++ " (Type: " ++ kind.toText ++ ", Target: " ++ target.toText ++ ")"
      else if kind.truthy then pre ++ taskName.toText ++ " (Type: " ++ kind.toText ++ ")"
      else pre ++ taskName.toText
    print ("\t" ++ text ++ "\n")
  print "\n\n"
  let mut declaredVars : List Value := []
  for var in <- iterate (<- getOr body "variable_list" (.list [])) do
    declaredVars := declaredVars ++ [<- if (<- getOr var "label" (.str "")).truthy then at! var "label"
      else getOr var "name" .none]
  print ("\tVariables [" ++ toString declaredVars.length ++ "]:\n")
  print ("\t\t" ++ (<- joinTexts ", " (.list declaredVars)) ++ "\n\n")
  let mut creds : List Value := []
  for cred in <- iterate (<- getOr resources "credential_definition_list" (.list [])) do
    creds := creds ++ [.str ((<- getOr cred "name" (.str "")).toText ++ " (" ++
      (<- getOr cred "type" (.str "")).toText ++ ")")]
  print ("Credentials [" ++ toString creds.length ++ "]:\n")
  print ("\t" ++ (<- joinTexts ", " (.list creds)) ++ "\n\n")
  let target <- getOr (<- getOr resources "default_target_reference" emptyDict) "name" (.str "-")
  print ("Default Endpoint Target: " ++ target.toText ++ "\n\n")

def deleteRunbooks (values : ParamValues) : Build Unit := do
  let _ <- serverSettings
  let names := match values.lookup "runbook_names" with
    | some (.tuple xs) | some (.list xs) => xs.map Value.toText
    | _ => []
  for name in names do
    let found <- runbookNamed name
    let outcome <- runbooks.delete (<- path! found ["metadata", "uuid"])
    if let some err := outcome.error then raiseError err
    logInfo ("Runbook " ++ name ++ " deleted")

/-- The states in which a task of the server has ended. -/
def finishedTaskStates : List String := ["SUCCEEDED", "FAILED", "ABORTED", "SUSPENDED"]

/-- Watches a task of the server for ten polls: answers its state once it has ended, or none
    when it has not ended by then. -/
def taskState (uuid : String) (interval : Int) : Build Value := do
  let tasks := Api.Resource.named "TaskAPI" "tasks"
  for _ in List.range 10 do
    logInfo "Fetching status of task"
    let response <- (<- tasks.read (.str uuid)).jsonOrRaise
    let status <- at! response "status"
    logInfo status.toText
    if isOneOf status finishedTaskStates then
      let detail <- getOr response "error_detail" (.str "")
      if detail.truthy then logError detail.toText
      return status
  logInfo ("Task couldn't reached to terminal state in " ++ toString (interval * 10) ++
    " seconds. Exiting...")
  pure .none

def watchTask (values : ParamValues) : Build Unit := do
  let _ <- serverSettings
  let interval := match values.lookup "poll_interval" with
    | some (.int n) => n
    | _ => 2
  let _ <- taskState (textValue values "task_uuid") interval

end Blueprints.Cli
