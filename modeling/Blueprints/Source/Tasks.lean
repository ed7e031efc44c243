import Blueprints.Source.Context
import Blueprints.Source.Templates

namespace Blueprints.Source

open Library Build Text Templates

/-- The entity type whose class names references of an entity kind resolve to. -/
def refEntityType (kind : String) : Option String :=
  match kind with
  | "app_service" => some "Service"
  | "app_package" => some "Package"
  | "app_substrate" => some "Substrate"
  | "app_blueprint_deployment" => some "Deployment"
  | "app_profile" => some "Profile"
  | _ => none

/-- A reference written as source, with the name it refers to: the class written for the
    entity when there is one, else the reference's own name. -/
def refText (ref : Value) : Writer (String × String) := do
  let e <- match ref with
    | .entity e => pure e
    | v => throw (v.noAttribute "name")
  let own := attrOf e "name"
  let name := if own.truthy then own.toText else e.name
  let name <- match refEntityType (attrOf e "kind").toText with
    | some entityType => do pure ((<- classNameOf entityType name).getD name)
    | none => pure name
  let text <- fill Templates.ref [("name", .str name)]
  pure (text, name)

/-- Writes a script under `scripts/`, named after the context, and answers the expression that
    reads it back. -/
def scriptFile (scriptType script : Value) (context : String) : Writer String := do
  let ext <- match scriptType with
    | .str "sh" => pure ".sh"
    | .str "npsscript" => pure ".ps1"
    | .str "static" => pure ".py"
    | v => throw (.wrongType ("Script Type " ++ v.toText ++ " not supported"))
  let fileName := context ++ ext
  let text <- match script with
    | .str s => pure s
    | v => throw (.wrongType ("write() argument must be str, not " ++ v.typeName))
  writeFile ("scripts/" ++ fileName) text
  pure ("os.path.join('scripts', '" ++ fileName ++ "')")

/-- The message of a template that no branch chose. -/
def noTemplate : Fault := .unboundLocal "local variable 'schema_file' referenced before assignment"

/-- The text of a credential reference: `ref(variable)`. -/
def credentialRef (cred : Value) : Writer String := do
  pure ("ref(" ++ (<- credentialVar (<- nameOrClass cred)) ++ ")")

/-- A task written as source; `context` is the place of its parent, `runbooks` the actions of the
    runbooks that calls may name and `configs` the configurations that tasks may run. -/
def taskText (task : Entity) (context : String) (runbooks : List (String × String))
    (configs : List (String × String × String)) : Writer String := do
  let context := context ++ "_Task_" ++ task.name
  let taskName := attrOf task "name"
  let mut obj := assoc (userAttrs task) "name" taskName
  let target := attrOf task "target_any_local_reference"
  let mut targetName : Option String := none
  if target.truthy then
    let (text, name) <- refText target
    obj := assoc obj "target" (.str text)
    targetName := some name
  let attrs := attrOf task "attrs"
  let cred <- getOr attrs "login_credential_local_reference" .none
  if cred.truthy then obj := assoc obj "cred" (.str (<- credentialRef cred))
  let taskType := (attrOf task "type").toText
  let withScript (o : List (String × Value)) : Writer (List (String × Value)) := do
    let file <- scriptFile (<- item attrs "script_type") (<- item attrs "script") context
    let attrs' := Value.dict (dictPut (<- entries attrs) "script_file" (.str file))
    pure (assoc o "attrs" attrs')
  let scriptTemplate (choices : String × String × String) : Writer String := do
    let (ssh, escript, powershell) := choices
    match <- item attrs "script_type" with
    | .str "sh" => pure ssh
    | .str "static" => pure escript
    | .str "npsscript" => pure powershell
    | _ => throw noTemplate
  match taskType with
  | "EXEC" =>
    obj <- withScript obj
    let template <- scriptTemplate
      (taskExecSsh, taskExecEscript, taskExecPowershell)
    fill template obj
  | "SET_VARIABLE" =>
    let declaredVars <- getOr attrs "eval_variables" .none
    if declaredVars.truthy then obj := assoc obj "variables" declaredVars
    obj <- withScript obj
    let template <- scriptTemplate (taskSetvariableSsh,
      taskSetvariableEscript, taskSetvariablePowershell)
    fill template obj
  | "DELAY" =>
    obj := assoc obj "delay_seconds" (<- getOr attrs "interval_secs" (.int 0))
    fill taskDelay obj
  | "SCALING" =>
    let count <- getOr attrs "scaling_count" (.int 1)
    if count.truthy then obj := assoc obj "scaling_count" count
    match <- item attrs "scaling_type" with
    | .str "SCALEOUT" => fill taskScalingScaleout obj
    | .str "SCALEIN" => fill taskScalingScalein obj
    | _ => throw noTemplate
  | "HTTP" =>
    let mut headers : List (Value × Value) := []
    let mut secretHeaders : List (Value × Value) := []
    for var in <- iterate (<- getOr attrs "headers" (.list [])) do
      let varType <- item var "type"
      let key <- item var "name"
      let value <- item var "value"
      if varType.isText "LOCAL" then headers := dictPutValue headers key value
      else if varType.isText "SECRET" then secretHeaders := dictPutValue secretHeaders key value
    let mut statuses : List (Value × Value) := []
    for status in <- iterate (<- getOr attrs "expected_response_params" (.list [])) do
      let code <- item status "code"
      statuses := dictPutValue statuses code (.bool ((<- item status "status").isText "SUCCESS"))
    obj := assoc (assoc (assoc obj "headers" (.dict headers)) "secret_headers"
      (.dict secretHeaders)) "status_mapping" (.dict statuses)
    let auth <- getOr attrs "authentication" (.dict [])
    if (<- getOr auth "type" (.str "")).isText "basic_with_cred" then
      let authCred <- getOr auth "credential_local_reference" .none
      if authCred.truthy then obj := assoc obj "cred" (.str (<- credentialRef authCred))
    obj := assoc obj "response_paths" (<- getOr attrs "response_paths" (.dict []))
    match <- item attrs "method" with
    | .str "GET" => fill taskHttpGet obj
    | .str "POST" => fill taskHttpPost obj
    | .str "PUT" => fill taskHttpPut obj
    | .str "DELETE" =>
      if !(<- item attrs "request_body").truthy then
        obj := assoc obj "attrs" (.dict (dictPut (<- entries attrs) "request_body" (.dict [])))
      fill taskHttpDelete obj
    | _ => throw noTemplate
  | "CALL_RUNBOOK" =>
    let runbookName <- nameOrClass (<- item attrs "runbook_reference")
    let some action := lookup runbooks runbookName
      | throw (.missingKey (quoted runbookName))
    let some target := targetName
      | throw (.missingAttribute "'NoneType' object has no attribute 'name'")
    fill taskCallRunbook
      [("name", taskName), ("action", .str action), ("target", .str target)]
  | "CALL_CONFIG" =>
    let configName := (<- item attrs "config_spec_reference").toText
    let some (global, _) := lookup configs configName
      | throw (.missingKey (quoted configName))
    fill taskCallConfig [("name", taskName), ("config", .str global)]
  | _ =>
    logError "Task type does not match any known types"
    throw (.unboundName "name 'sys' is not defined")

/-- Tasks that run side by side, written as source. -/
def parallelText (tasks : List Entity) (context : String) (runbooks : List (String × String))
    (configs : List (String × String × String)) : Writer String := do
  let mut texts : List Value := []
  for t in tasks do
    texts := texts ++ [.str (<- taskText t context runbooks configs)]
  fill parallelTask [("tasks", .list texts)]

end Blueprints.Source
