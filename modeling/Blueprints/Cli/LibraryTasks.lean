import Blueprints.Cli.Access

namespace Blueprints.Cli

open Library Http Api Build Text

def libraryTasks : Resource := Resource.named "TaskLibraryApi" "app_tasks"

/-- The payload of a library item: a task's type, its attributes and its output variables. An
    HTTP task keeps all its attributes; a script keeps its text and how it runs. -/
def libraryPayload (name kind attrs description : Value) (outVars : Option String) :
    Build Value := do
  let mut resources := dictOf [("type", kind), ("variable_list", .list [])]
  if kind.isText "HTTP" then
    resources <- setKey resources "attrs" attrs
  else
    let scriptType <- getOr attrs "script_type" .none
    let script <- getOr attrs "script" .none
    let given := (outVars.filter (!·.isEmpty)).map fun v => Value.list ((v.splitOn ",").map .str)
    let vars <- match given with
      | some v => pure v
      | none => getOr attrs "eval_variables" .none
    let mut taskAttrs := dictOf [("script", script), ("script_type", scriptType)]
    if vars.truthy then taskAttrs <- setKey taskAttrs "eval_variables" vars
    resources <- setKey resources "attrs" taskAttrs
  pure (dictOf [
    ("spec", dictOf [("name", name),
      ("description", if description.truthy then description else .str ""),
      ("resources", resources)]),
    ("metadata", dictOf [("spec_version", .int 1), ("name", name), ("kind", .str "app_task")]),
    ("api_version", .str "3.0")])

/-- Creates a library item, deleting one of the same name first when it is to be replaced.
    Answers the error that stopped it, if any. -/
def uploadLibraryItem (payload : Value) (name : Value) (force : Bool) : Build (Option Value) := do
  let (_, payload) <- popOr payload "status" .none
  let mut metadata <- getOr payload "metadata" .none
  if let .none := metadata then
    throw (.missingAttribute "'NoneType' object has no attribute 'pop'")
  for key in ["uuid", "last_update_time", "owner_reference", "creation_time"] do
    metadata := (<- popOr metadata key .none).2
  let payload <- setKey payload "metadata" metadata
  let found <- libraryTasks.list (dictOf [("filter", arith' name)])
  if let some err := found.error then return some err
  let entities <- getOr (<- found.json) "entities" .none
  if entities.truthy && (<- lengthOf entities) > 0 then
    if !force then
      return some (dictOf [("error", .str ("Task Library item " ++ name.toText ++ " already " ++
        "exists. Use --force to delete existing task library item before create.")),
        ("code", .int (-1))])
    let old <- path! (<- subscript entities (.int 0)) ["metadata", "uuid"]
    let deleted <- libraryTasks.delete old
    if let some err := deleted.error then return some err
  let project <- contextProject
  let listed <- (<- projects.list (dictOf [("filter", .str ("name==" ++ project))])).jsonOrRaise
  let projectsFound <- getOr listed "entities" .none
  if !projectsFound.truthy then throw (.failure ("No project with name " ++ project ++ " exists"))
  let projectId <- path! (<- subscript projectsFound (.int 0)) ["metadata", "uuid"]
  let reference := dictOf [("kind", .str "project"), ("uuid", projectId), ("name", .str project)]
  let payload <- setKey payload "metadata" (<- setKey (<- at! payload "metadata")
    "project_reference" reference)
  let _ <- (<- libraryTasks.create payload).jsonOrRaise
  logInfo ("Task Library item '" ++ name.toText ++ "' created successfully.")
  pure none
where
  arith' (name : Value) : Value := .str ("name==" ++ name.toText ++ ";state!=DELETED")

/-- A payload with the name and the description given on the command line in place of its own;
    answers the name the item gets. -/
def renamedItem (payload : Value) (name description : Option String) : Build (Value × Value) := do
  let mut payload := payload
  let mut itemName : Value := .none
  if let some n := name.filter (!·.isEmpty) then
    payload <- setKey payload "spec" (<- setKey (<- at! payload "spec") "name" (.str n))
    itemName := .str n
  else
    itemName <- getOr (<- getOr payload "spec" .none) "name" .none
  if let some d := description.filter (!·.isEmpty) then
    payload <- setKey payload "spec" (<- setKey (<- at! payload "spec") "description" (.str d))
  pure (payload, itemName)

/-- The payload of the task that a file of the blueprint language defines: the last task among
    its names in order. -/
def libraryTaskOf (r : Runtime) (file : String) : Build Value := do
  let names <- loadFile r file
  let isTask (v : Value) : Bool := match v with
    | .entity e => e.kind == .task
    | _ => false
  let some task := (names.filter (isTask ·.2)).getLast?.map (·.2)
    | throw (.missingAttribute "'NoneType' object has no attribute 'get_dict'")
  let dict := .ofJson (<- r.encode false [] task)
  libraryPayload (<- getOr dict "name" .none) (<- getOr dict "type" .none)
    (<- getOr dict "attrs" .none) (<- getOr dict "description" .none) none

def createLibraryTask (r : Runtime) (values : ParamValues) : Build Unit := do
  let _ <- serverSettings
  let file := textValue values "task_file"
  let payload <- if file.endsWith ".json" then readJsonFile file
    else if file.endsWith ".py" then libraryTaskOf r file
    else
      logError ("Unknown file format " ++ file)
      return
  let (payload, name) <- renamedItem payload (textValue? values "name")
    (textValue? values "description")
  if let some err := <- uploadLibraryItem payload name (flagValue values "force") then
    logError (<- at! err "error").toText

/-- The name a script file gives its item: its file name without the extension, blanks made
    underscores. -/
def scriptItemName (file : String) : String :=
  let base := ((file.splitOn "/").getLast?.getD file).replace " " "_"
  let parts := base.splitOn "."
  let stem := ".".intercalate parts.dropLast
  if parts.length > 1 && stem.any (· != '.') then stem else base

def importLibraryTask (values : ParamValues) : Build Unit := do
  let _ <- serverSettings
  let file := textValue values "task_file"
  let scriptType <- if file.endsWith ".sh" then pure "sh"
    else if file.endsWith ".escript" then pure "static"
    else if file.endsWith ".ps1" then pure "npsscript"
    else if file.endsWith ".py" || file.endsWith ".json" then
      logError ("Unknown file format. Please use 'calm create library task' command for " ++
        "(.py & .json).")
      return
    else
      logError ("Unknown file format " ++ file)
      return
  let outVars := textValue? values "out_vars"
  let kind := if outVars.isSome then "SET_VARIABLE" else "EXEC"
  let text <- Files.readAt (absolutePath file)
    (.system "FileNotFoundError" ("[Errno 2] No such file or directory: " ++ quoted file))
  let name := match (textValue? values "name").filter (!·.isEmpty) with
    | some n => n
    | none => scriptItemName file
  let attrs := dictOf [("script_type", .str scriptType), ("script", .str text)]
  let description : Value := match textValue? values "description" with
    | some d => .str d
    | none => .none
  let payload <- libraryPayload (.str name) (.str kind) attrs description outVars
  if let some err := <- uploadLibraryItem payload (.str name) (flagValue values "force") then
    logError (<- at! err "error").toText

/-- The library item of a name; with `all`, deleted items count too. -/
def findLibraryTask (name : String) (all : Bool) : Build Value := do
  let filter := "name==" ++ name ++ (if all then "" else ";state!=DELETED")
  let response <- (<- libraryTasks.list (dictOf [("filter", .str filter)])).jsonOrRaise
  let entities <- getOr response "entities" .none
  if !entities.truthy then throw (.failure ("No task found with name " ++ name))
  if (<- lengthOf entities) != 1 then
    throw (.failure ("More than one task found - " ++ entities.toText))
  logInfo (name ++ " found ")
  subscript entities (.int 0)

def describeLibraryTask (values : ParamValues) : Build Unit := do
  let _ <- serverSettings
  let name := textValue values "task_name"
  let found <- findLibraryTask name true
  let task <- (<- libraryTasks.read (<- path! found ["metadata", "uuid"])).jsonOrRaise
  if textValue values "out" == "json" then
    printJson task
    return
  let status <- at! task "status"
  let resources <- at! status "resources"
  let mut names : List Value := []
  for p in <- iterate (<- at! resources "project_reference_list") do names := names ++ [<- at! p "name"]
  let projectText <- joinTexts "," (.list names)
  echo "\n----Task Summary----\n"
  echo ("Name: " ++ name ++ " (uuid: " ++ (<- path! task ["metadata", "uuid"]).toText ++ ")")
  echo ("Description: " ++ (<- at! status "description").toText)
  echo ("Status: " ++ (<- at! status "state").toText)
  let kind <- at! resources "type"
  echo ("Task Type: " ++ kind.toText)
  let attrs <- getOr (<- getOr status "resources" emptyDict) "attrs" emptyDict
  if !kind.isText "HTTP" then
    echo ("Script Type: " ++ (<- getOr attrs "script_type" (.str "")).toText)
  if kind.isText "SET_VARIABLE" then
    echo ("Output Variables: " ++ (<- getOr attrs "eval_variables" (.list [])).toText)
  print ("Owner: " ++ (<- path! task ["metadata", "owner_reference", "name"]).toText)
  echo (" Projects: " ++ projectText)
  let created <- secondsOf (<- path! task ["metadata", "creation_time"])
  echo ("Created: " ++ ctime created ++ " (" ++ ago created ++ ")")
  let taskAttrs <- at! resources "attrs"
  if kind.isText "HTTP" then
    echo ("Request URL: " ++ (<- at! taskAttrs "url").toText)
    echo ("Request Method: " ++ (<- at! taskAttrs "method").toText)
    echo ("Content Type: " ++ (<- at! taskAttrs "content_type").toText)
    echo ("Headers: " ++ (<- jsonText (<- at! taskAttrs "headers")))
    echo ("Expected Response Options: " ++ (<- jsonText (<- at! taskAttrs "expected_response_params")))
  else
    echo ("Script Data: \n\n" ++ (<- at! taskAttrs "script").toText)

def deleteLibraryTasks (values : ParamValues) : Build Unit := do
  let _ <- serverSettings
  let names := match values.lookup "task_names" with
    | some (.tuple xs) | some (.list xs) => xs.map Value.toText
    | _ => []
  for name in names do
    let task <- findLibraryTask name false
    let outcome <- libraryTasks.delete (<- path! task ["metadata", "uuid"])
    if let some err := outcome.error then raiseError err
    logInfo ("Task Library item " ++ name ++ " deleted")

end Blueprints.Cli
