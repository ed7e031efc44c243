import Blueprints.Library.Variables
import Blueprints.Library.Files

namespace Blueprints.Library.Tasks
open Build Text Files

/-- Makes a task class from its attributes; an absent name is made from the kind and a fresh
    identifier. -/
def taskCreate (kwargs : List (String × Value)) : Build Value := do
  let kwargs := kwargs.filter (·.1 != "__name__")
  let mut kw := kwargs
  let name <- match kwargs.find? (·.1 == "name") with
    | some (_, .none) | none => do
      let n := "_Task" ++ (<- Build.freshShort)
      kw := upsert kw "name" (.str n)
      pure (Value.str n)
    | some (_, v) => pure v
  pure (.entity (<- makeClass .task name [] kw))

/-- The text of a script file that a task names, beside the blueprint file that names it; a
    request that is not a file has no directory to read it from. -/
def scriptFile (filename : Value) : Build String := do
  let s <- get
  let name <- pathText filename
  let inFile := s.strictNames || s.ranFile
  let path := if inFile then joinPath s.sourceDir name else name
  let missing : Fault := .system "FileNotFoundError" ("[Errno 2] No such file or directory: " ++
    quoted path)
  if !inFile then throw (.failure missing.message)
  readAt path missing

/-- A task that runs a script, as a script task or a decision. -/
def scriptTask (what : String) (taskType scriptType : String) (b : Bound) : Build Value := do
  let name := b.get "name"
  let script := b.get "script"
  let filename := b.get "filename"
  if !script.isNone && !filename.isNone then
    throw (.badValue ("Only one of script or filename should be given for " ++ what ++ " task " ++
      (<- nameText name)))
  let script <- if filename.isNone then pure script else .str <$> scriptFile filename
  if script.isNone then
    throw (.badValue ("One of script or filename is required for " ++ what ++ " task " ++
      (<- nameText name)))
  let mut attrs : List (Value × Value) := [(.str "script_type", .str scriptType), (.str "script", script)]
  let cred := b.get "cred"
  if !cred.isNone then attrs := attrs ++ [(.str "login_credential_local_reference", <- targetRef cred)]
  let mut kw : List (String × Value) := [("name", name), ("type", .str taskType), ("attrs", .dict attrs)]
  let target := b.get "target"
  if !target.isNone then kw := kw ++ [("target_any_local_reference", <- targetRef target)]
  let endpoint := b.get "target_endpoint"
  if !endpoint.isNone then kw := kw ++ [("exec_target_reference", <- targetRef endpoint)]
  taskCreate kw

/-- Makes a script task set variables from the script's output. -/
def setVariables (r : Runtime) (task : Value) (declaredVars : Value) : Build Value := do
  let .entity e := task | throw (.wrongType "task expected")
  let e <- e.set "type" (.str "SET_VARIABLE")
  let items := match declaredVars with
    | .list xs | .tuple xs => xs
    | _ => []
  let mut names : List Value := []
  for v in items do
    match v with
    | .str _ => names := names ++ [v]
    | _ => throw (.wrongType ("Expected string in set variable task variables list, got " ++
        v.typeText))
  let attrs <- r.attr (.entity e) "attrs"
  let attrs' := match attrs with
    | .dict es => Value.dict (es.filter (fun (k, _) => !k.isText "eval_variables") ++
        [(.str "eval_variables", .list names)])
    | v => v
  pure (.entity (e.setAttr "attrs" attrs'))

def headerVariables (headers : Value) (secret : Bool) : Build (List Value) := do
  let .dict entries := headers | throw (.wrongType ("Headers for HTTP task " ++ (<- nameText headers) ++
    " should be dictionary of strings"))
  let mut out : List Value := []
  for (k, v) in entries do
    match k with
    | .str _ => pure ()
    | _ => throw (.wrongType ("Headers for HTTP task " ++ (<- nameText k) ++
        " should be dictionary of strings"))
    match v with
    | .str _ => pure ()
    | _ => throw (.wrongType ("Headers for HTTP task " ++ (<- nameText v) ++
        " should be dictionary of strings"))
    let b : Bound := { values := [("value", v), ("name", k), ("label", .none), ("regex", .none),
      ("validate_regex", .bool false), ("is_hidden", .bool false), ("is_mandatory", .bool false),
      ("runtime", .bool false), ("description", .str "")] }
    out := out ++ [<- Variables.simple (if secret then "SECRET" else "LOCAL") b]
  pure out

def httpTask (r : Runtime) (method url : Value) (b : Bound) : Build Value := do
  let name := b.get "name"
  let mut auth : Value := textDict [("auth_type", .str "none")]
  let cred := b.get "cred"
  let credential := b.get "credential"
  if !cred.isNone then
    let credRef <- targetRef cred
    let kind <- match credRef with
      | .entity _ => r.attr credRef "kind"
      | _ => pure .none
    if !kind.isText "app_credential" then
      throw (.badValue ("Cred for HTTP task " ++ (<- nameText name) ++
        " should be reference of credential object"))
    auth := textDict [("type", .str "basic_with_cred"), ("credential_local_reference", credRef)]
  else if !credential.isNone then
    let isCred := match credential with
      | .entity e => e.kind == .credential
      | _ => false
    if !isCred then
      throw (.badValue ("Credential for HTTP task " ++ (<- nameText name) ++
        " should be a Credential object of PASSWORD type"))
    let username <- r.attr credential "username"
    let secret <- r.attr credential "secret"
    let password := match secret with
      | .dict es => (dictGet? es "value").getD .none
      | .record _ fs => ((fs.find? (·.1 == "value")).map (·.2)).getD .none
      | _ => .none
    auth := textDict [("auth_type", .str "basic"), ("basic_auth", textDict [("username", username),
      ("password", textDict [("value", password),
        ("attrs", textDict [("is_secret_modified", .bool true)])])])]
  let retries := b.get "retries"
  let retryCount <- match retries with
    | .int n => pure (Value.int (n + 1))
    | .bool x => pure (Value.int ((if x then 1 else 0) + 1))
    | .str _ => throw (.wrongType "can only concatenate str (not \"int\") to str")
    | v => throw (.wrongType ("unsupported operand type(s) for +: '" ++ v.typeName ++ "' and 'int'"))
  let mut attrs : List (String × Value) :=
    [("method", method), ("url", url), ("authentication", auth),
     ("connection_timeout", b.get "timeout"), ("tls_verify", b.get "verify"),
     ("retry_count", retryCount), ("retry_interval", b.get "retry_interval")]
  if !(b.get "relative_url").isNone then attrs := attrs ++ [("relative_url", b.get "relative_url")]
  if !(b.get "body").isNone then attrs := attrs ++ [("request_body", b.get "body")]
  if !(b.get "content_type").isNone then attrs := attrs ++ [("content_type", b.get "content_type")]
  let mut kw : List (String × Value) := [("name", name), ("type", .str "HTTP")]
  let target := b.get "target"
  let mut targetKw : List (String × Value) := []
  if !target.isNone then targetKw := [("target_any_local_reference", <- targetRef target)]
  let mut headerVars : List Value := []
  if !(b.get "headers").isNone then
    headerVars := headerVars ++ (<- headerVariables (b.get "headers") false)
    attrs := upsert attrs "headers" (.list headerVars)
  if !(b.get "secret_headers").isNone then
    headerVars := headerVars ++ (<- headerVariables (b.get "secret_headers") true)
    attrs := upsert attrs "headers" (.list headerVars)
  let statusMapping := b.get "status_mapping"
  if !statusMapping.isNone then
    let bad := "Status mapping for HTTP task " ++ (<- nameText name) ++
      " should be dictionary of int keys and boolean values"
    let entries <- match statusMapping with
      | .dict es => pure es
      | _ => throw (.wrongType bad)
    let mut expected : List Value := []
    for (code, state) in entries do
      match code with
      | .int _ | .bool _ => pure ()
      | _ => throw (.wrongType bad)
      match state with
      | .bool s =>
        expected := expected ++ [textDict [("status", .str (if s then "SUCCESS" else "FAILURE")),
          ("code", code)]]
      | _ => throw (.wrongType bad)
    attrs := attrs ++ [("expected_response_params", .list expected)]
  let responsePaths := b.get "response_paths"
  if !responsePaths.isNone then
    let bad := "Response paths for HTTP task " ++ (<- nameText name) ++ " should be dictionary of strings"
    let entries <- match responsePaths with
      | .dict es => pure es
      | _ => throw (.wrongType bad)
    for (k, v) in entries do
      match k, v with
      | .str _, .str _ => pure ()
      | _, _ => throw (.wrongType bad)
    attrs := attrs ++ [("response_paths", responsePaths)]
  kw := kw ++ [("attrs", textDict attrs)] ++ targetKw
  taskCreate kw

/-- A task that scales a deployment in or out. -/
def scalingTask (r : Runtime) (scalingType : String) (b : Bound) : Build Value := do
  let target0 := b.get "target"
  if !target0.truthy then throw (.badValue "A target is required for deployment scaling task")
  let target <- targetRef target0
  let kind <- attrOfValue r target "kind"
  if !kind.isText "app_blueprint_deployment" then
    throw (.badValue ("Target for deployment scaling cannot be " ++ kind.toText))
  let name <- match b.get "name" with
    | .none => do
      let tname <- r.attr target "name"
      pure (Value.str (scalingType ++ "_task_for_" ++ tname.toText ++ "__" ++ (<- Build.freshShort)))
    | v => pure v
  taskCreate [("name", name), ("type", .str "SCALING"),
    ("attrs", textDict [("scaling_type", .str scalingType), ("scaling_count", .str (b.get "count").toText)]),
    ("target_any_local_reference", target)]

def delayTask (b : Bound) : Build Value := do
  let delay := b.get "delay_seconds"
  match delay with
  | .int _ | .bool _ => pure ()
  | v => throw (.wrongType ("delay_seconds(" ++ v.toText ++ ") is expected to be an integer, got " ++
      v.typeText))
  let mut kw : List (String × Value) := [("name", b.get "name"), ("type", .str "DELAY"),
    ("attrs", textDict [("interval_secs", delay)])]
  if !(b.get "target").isNone then kw := kw ++ [("target_any_local_reference", <- targetRef (b.get "target"))]
  taskCreate kw

def vmOperation (type_ : Value) (b : Bound) : Build Value := do
  let mut kw : List (String × Value) := [("name", b.get "name"), ("type", type_)]
  if !(b.get "target").isNone then kw := kw ++ [("target_any_local_reference", <- targetRef (b.get "target"))]
  taskCreate kw

def checkTimeout (timeout : Value) : Build Unit :=
  match timeout with
  | .int _ | .bool _ => pure ()
  | v => throw (.wrongType ("timeout is expected to be an integer, got " ++ v.typeText))

def inputTask (r : Runtime) (b : Bound) : Build Value := do
  let timeout := b.get "timeout"
  checkTimeout timeout
  let items := match b.get "inputs" with
    | .list xs | .tuple xs => xs
    | _ => []
  let mut inputs : List Value := []
  for i in items do
    match i with
    | .entity e =>
      if e.kind != .taskInput then
        throw (.wrongType ("All inputs is expected to be an TaskInputType, got " ++ i.typeText))
      inputs := inputs ++ [textDict [("name", <- r.attr i "name"), ("input_type", <- r.attr i "input_type"),
        ("options", <- r.attr i "options")]]
    | v => throw (.wrongType ("All inputs is expected to be an TaskInputType, got " ++ v.typeText))
  taskCreate [("name", b.get "name"), ("type", .str "INPUT"),
    ("attrs", textDict [("task_timeout", timeout), ("inputs", .list inputs)])]

def confirmTask (b : Bound) : Build Value := do
  let timeout := b.get "timeout"
  checkTimeout timeout
  taskCreate [("name", b.get "name"), ("type", .str "CONFIRM"),
    ("attrs", textDict [("task_timeout", timeout)])]

/-- The references to a list of child tasks. -/
def childRefs (r : Runtime) (children : Value) : Build (List Value) := do
  let items := match children with
    | .list xs | .tuple xs => xs
    | _ => []
  items.mapM fun t => do
    match t with
    | .entity e => getRef e
    | .none => throw (.missingAttribute "'NoneType' object has no attribute 'get_ref'")
    | v => do
      let m <- attrOfValue r v "get_ref"
      r.call m [] []

/-- A group task: the name, or a fresh one with the given suffix, and references to the children. -/
def groupTask (r : Runtime) (type_ suffix : String) (name children : Value)
    (extra : List (String × Value)) (target : Value) : Build Value := do
  let name' <- if name.truthy then pure name
    else do pure (Value.str ((<- Build.freshShort) ++ suffix))
  let refs <- childRefs r children
  let mut kw : List (String × Value) := [("name", name'), ("child_tasks_local_reference_list", .list refs)]
  kw := kw ++ extra ++ [("type", .str type_)]
  if target.truthy then kw := kw ++ [("target_any_local_reference", target)]
  taskCreate kw

/-- The edges of a dag, as pairs of references. -/
def dagEdges (r : Runtime) (edges : Value) : Build (List Value) := do
  let items := match edges with
    | .list xs | .tuple xs => xs
    | _ => []
  items.mapM fun edge => do
    let pair <- match edge with
      | .list xs | .tuple xs => pure xs
      | v => throw (.wrongType ("object of type '" ++ v.typeName ++ "' has no len()"))
    if pair.length != 2 then throw (.badValue "DAG edges require a tuple of two task references")
    for t in pair do
      let kind <- attrOfValue r t "__kind__"
      if !kind.isText "app_ref" then
        throw (.badValue (t.toText ++ " is not a valid task reference"))
    pure (textDict [("from_task_reference", pair[0]!), ("to_task_reference", pair[1]!)])

/-- A dag task: children run along the given edges. -/
def dagTask (r : Runtime) (b : Bound) : Build Value := do
  let edges <- dagEdges r (b.get "edges")
  groupTask r "DAG" "_dag" (b.get "name") (b.get "child_tasks")
    [("attrs", textDict [("edges", .list edges)])] (b.get "target")

def callRunbook (r : Runtime) (runbook target name : Value) : Build Value := do
  let name' <- if name.truthy then pure name else do
    let rname <- attrOfValue r runbook "name"
    pure (Value.str ("Call_Runbook_task_for_" ++ rname.toText ++ "__" ++ (<- Build.freshShort)))
  let getRefM <- attrOfValue r runbook "get_ref"
  let rref <- r.call getRefM [] []
  let mut kw : List (String × Value) := [("name", name'), ("type", .str "CALL_RUNBOOK"),
    ("attrs", textDict [("runbook_reference", rref)])]
  if !target.isNone then
    kw := kw ++ [("target_any_local_reference", <- targetRef target)]
  else
    let tasks <- attrOfValue r runbook "tasks"
    let main <- attrOfValue r runbook "main_task_local_reference"
    let mainName <- attrOfValue r main "name"
    let items := match tasks with
      | .list xs => xs
      | _ => []
    let mut found : Option Value := none
    for t in items do
      if found.isNone then
        if (<- attrOfValue r t "name").equal mainName then found := some t
    let some mainDag := found | throw (.outOfRange "list index out of range")
    let tgt <- attrOfValue r mainDag "target_any_local_reference"
    kw := kw ++ [("target_any_local_reference", tgt)]
    let kind <- attrOfValue r tgt "kind"
    if !kind.isText "app_service" then
      exitWith "Runbook Tasks are only allowed for service actions"
  taskCreate kw

/-- The loop task of runbooks: a while loop with an iteration count and exit condition. -/
def loopTask (r : Runtime) (b : Bound) : Build Value := do
  let exitCode := match b.get "exit_condition" with
    | .status "SUCCESS" => some "on_success"
    | .status "FAILURE" => some "on_failure"
    | .status "DONT_CARE" => some "dont_care"
    | _ => none
  let some code := exitCode | throw (.badValue
    "Valid Exit Conditions for loop are 'Status.SUCCESS/Status.FAILURE/Status.DONT_CARE'.")
  let attrs := textDict [("iterations", .str (b.get "iterations").toText),
    ("loop_variable", b.get "loop_variable"), ("exit_condition_type", .str code)]
  groupTask r "WHILE_LOOP" "_while_loop" (b.get "name") (b.get "child_tasks") [("attrs", attrs)] .none

def scriptParams (withEndpoint withCred : Bool) : List (String × Option Value) :=
  [opt "script" .none, opt "filename" .none, opt "name" .none, opt "target" .none] ++
  (if withEndpoint then [opt "target_endpoint" .none] else []) ++
  (if withCred then [opt "cred" .none] else []) ++ [opt "depth" (.int 2)]

/-- The parameters of HTTP tasks after the method and address. -/
def httpParams (withBody : Bool) : List (String × Option Value) :=
  (if withBody then [opt "body" .none] else []) ++
  [opt "headers" .none, opt "secret_headers" .none, opt "credential" .none,
   opt "content_type" .none, opt "timeout" (.int 120), opt "verify" (.bool false),
   opt "retries" (.int 0), opt "retry_interval" (.int 10), opt "status_mapping" .none,
   opt "response_paths" .none, opt "name" .none, opt "target" .none, opt "cred" .none]

/-- The parameters of HTTP tasks on an endpoint, after the method. -/
def endpointHttpParams : List (String × Option Value) :=
  [opt "relative_url" .none, opt "body" .none, opt "headers" .none, opt "secret_headers" .none,
   opt "content_type" .none, opt "status_mapping" .none, opt "response_paths" .none,
   opt "name" .none, opt "target" .none]

/-- The task constructors, by the name that a path resolves to. -/
def builtin? (r : Runtime) (name : String) : Option Builtin :=
  let http (m : String) (withBody : Bool) : Builtin :=
    fn ("http_task_" ++ m.toLower) (req "url" :: httpParams withBody) fun b =>
      httpTask r (.str m) (b.get "url") (if withBody then b else b.update [("body", .none)])
  let inner : Signature :=
    { qualName := "http_task_on_endpoint", params := req "method" :: endpointHttpParams }
  let onEndpoint (m : String) : Builtin :=
    let sig : Signature :=
      { qualName := "http_task_" ++ m.toLower ++ "_on_endpoint", params := [], varKw := true }
    let run (b : Bound) : Build Value := do
      match inner.bind [.str m] b.extra with
      | .ok b' => httpTask r (.str m) (.str "") (b'.update [("timeout", .int 120),
          ("verify", .bool false), ("retries", .int 0), ("retry_interval", .int 10),
          ("credential", .none), ("cred", .none)])
      | .error e => throw e
    { sig, run }
  match name with
  | "CalmTask" => some (refusing "BaseTask.__new__" "'CalmTask' is not callable")
  | "RunbookTask" => some (refusing "BaseTask.__new__" "'RunbookTask' is not callable")
  | "CalmTask.Exec" => some (refusing "CalmTask.Exec.__new__" "'Exec' is not callable")
  | "RunbookTask.Exec" => some (refusing "RunbookTask.Exec.__new__" "'Exec' is not callable")
  | "RunbookTask.Decision" => some (refusing "RunbookTask.Decision.__new__" "'Decision' is not callable")
  | "exec_task_ssh" => some (fn name (scriptParams true true) (scriptTask "exec" "EXEC" "sh"))
  | "exec_task_powershell" =>
    some (fn name (scriptParams true true) (scriptTask "exec" "EXEC" "npsscript"))
  | "exec_task_escript" => some (fn name (scriptParams false false) (scriptTask "exec" "EXEC" "static"))
  | "exec_task_ssh_runbook" => some (fn name (scriptParams false true) (scriptTask "exec" "EXEC" "sh"))
  | "exec_task_powershell_runbook" =>
    some (fn name (scriptParams false true) (scriptTask "exec" "EXEC" "npsscript"))
  | "decision_task_ssh" =>
    some (fn name (scriptParams false true) (scriptTask "decision" "DECISION" "sh"))
  | "decision_task_powershell" =>
    some (fn name (scriptParams false true) (scriptTask "decision" "DECISION" "npsscript"))
  | "decision_task_escript" =>
    some (fn name (scriptParams false true) (scriptTask "decision" "DECISION" "static"))
  | "set_variable_task_ssh" =>
    some (fn name ([opt "script" .none, opt "filename" .none, opt "name" .none, opt "target" .none,
      opt "target_endpoint" .none, opt "variables" .none, opt "depth" (.int 3), opt "cred" .none])
      fun b => do setVariables r (<- scriptTask "exec" "EXEC" "sh" b) (b.get "variables"))
  | "set_variable_task_powershell" =>
    some (fn name ([opt "script" .none, opt "filename" .none, opt "name" .none, opt "target" .none,
      opt "target_endpoint" .none, opt "variables" .none, opt "depth" (.int 3), opt "cred" .none])
      fun b => do setVariables r (<- scriptTask "exec" "EXEC" "npsscript" b) (b.get "variables"))
  | "set_variable_task_escript" =>
    some (fn name ([opt "script" .none, opt "filename" .none, opt "name" .none, opt "target" .none,
      opt "variables" .none, opt "depth" (.int 3)])
      fun b => do setVariables r (<- scriptTask "exec" "EXEC" "static" (b.update
        [("cred", .none), ("target_endpoint", .none)])) (b.get "variables"))
  | "http_task" =>
    some (fn name ([req "method", req "url", opt "relative_url" .none] ++ (httpParams true).filter
        (fun p => p.1 != "cred") ++ []) fun b => httpTask r (b.get "method") (b.get "url") b)
  | "BaseTask.HTTP" =>
    some (ctor name ([req "method", req "url"] ++ (httpParams true).filter (·.1 != "cred") ++
      [opt "cred" .none]) fun b => httpTask r (b.get "method") (b.get "url") b)
  | "http_task_get" => some (http "GET" false)
  | "http_task_post" => some (http "POST" true)
  | "http_task_put" => some (http "PUT" true)
  | "http_task_delete" => some (http "DELETE" true)
  | "http_task_on_endpoint" =>
    some (fn name (req "method" :: endpointHttpParams) fun b =>
      httpTask r (b.get "method") (.str "") (b.update [("timeout", .int 120), ("verify", .bool false),
        ("retries", .int 0), ("retry_interval", .int 10), ("credential", .none), ("cred", .none)]))
  | "RunbookTask.HTTP" =>
    some (ctor name (req "method" :: endpointHttpParams) fun b =>
      httpTask r (b.get "method") (.str "") (b.update [("timeout", .int 120), ("verify", .bool false),
        ("retries", .int 0), ("retry_interval", .int 10), ("credential", .none), ("cred", .none)]))
  | "http_task_get_on_endpoint" => some (onEndpoint "GET")
  | "http_task_post_on_endpoint" => some (onEndpoint "POST")
  | "http_task_put_on_endpoint" => some (onEndpoint "PUT")
  | "http_task_delete_on_endpoint" => some (onEndpoint "DELETE")
  | "BaseTask.Delay" =>
    some (ctor name [opt "delay_seconds" .none, opt "name" .none, opt "target" .none] delayTask)
  | "delay_task" =>
    some (fn name [opt "delay_seconds" .none, opt "name" .none, opt "target" .none] delayTask)
  | "scale_in_task" =>
    some (fn name [req "count", req "target", opt "name" .none] (scalingTask r "SCALEIN"))
  | "scale_out_task" =>
    some (fn name [req "count", req "target", opt "name" .none] (scalingTask r "SCALEOUT"))
  | "vm_operation" =>
    some (fn name [opt "name" .none, opt "type" (.str "VM_OPERATION"), opt "target" .none]
      fun b => vmOperation (b.get "type") b)
  | "RunbookTask.VMPowerOn" =>
    some (ctor name [opt "name" .none, opt "target" .none] (vmOperation (.str "VM_POWERON")))
  | "RunbookTask.VMPowerOff" =>
    some (ctor name [opt "name" .none, opt "target" .none] (vmOperation (.str "VM_POWEROFF")))
  | "RunbookTask.VMRestart" =>
    some (ctor name [opt "name" .none, opt "target" .none] (vmOperation (.str "VM_RESTART")))
  | "input_task" =>
    some (fn name [opt "timeout" .none, opt "name" .none, opt "inputs" (.list [])] (inputTask r))
  | "RunbookTask.Input" =>
    some (ctor name [opt "timeout" (.int 500), opt "name" .none, opt "inputs" (.list [])] (inputTask r))
  | "confirm_task" => some (fn name [opt "timeout" .none, opt "name" .none] confirmTask)
  | "RunbookTask.Confirm" => some (ctor name [opt "timeout" (.int 500), opt "name" .none] confirmTask)
  | "RunbookTask.Loop" =>
    some (ctor name [req "iterations", opt "name" .none, opt "child_tasks" (.list []),
      opt "loop_variable" (.str "iteration"), opt "exit_condition" (.status "DONT_CARE")] (loopTask r))
  | "dag" =>
    some (fn name [opt "name" .none, opt "child_tasks" .none, opt "edges" .none, opt "target" .none]
      (dagTask r))
  | "meta" =>
    some (fn name [opt "name" .none, opt "child_tasks" .none, opt "edges" .none, opt "target" .none]
      fun b => groupTask r "META" "_meta" (b.get "name") (b.get "child_tasks") [] (b.get "target"))
  | "parallel_task" =>
    some (fn name [opt "name" .none, opt "child_tasks" (.list []), opt "attrs" (.dict [])]
      fun b => groupTask r "PARALLEL" "_parallel" (b.get "name") (b.get "child_tasks") [] .none)
  | "while_loop" =>
    some (fn name [opt "name" .none, opt "child_tasks" (.list []), opt "attrs" (.dict [])]
      fun b => groupTask r "WHILE_LOOP" "_while_loop" (b.get "name") (b.get "child_tasks")
        [("attrs", b.get "attrs")] .none)
  | "create_call_rb" =>
    some (fn name [req "runbook", opt "target" .none, opt "name" .none]
      fun b => callRunbook r (b.get "runbook") (b.get "target") (b.get "name"))
  | "ref" =>
    some (fn name [req "cls"] fun b => do
      match b.get "cls" with
      | .entity e => if e.kind == .ref then pure (.entity e) else getRef e
      | v => do
        let m <- attrOfValue r v "get_ref"
        r.call m [] [])
  | _ => none

/-- The members of the task classes: nested classes and the functions they name. -/
def member? (owner attr : String) : Option String :=
  let base (a : String) : Option String := match a with
    | "HTTP" => some "BaseTask.HTTP"
    | "SetVariable" => some "BaseTask.SetVariable"
    | "Delay" => some "BaseTask.Delay"
    | _ => none
  match owner, attr with
  | "CalmTask", "Scaling" => some "CalmTask.Scaling"
  | "CalmTask", "Exec" => some "CalmTask.Exec"
  | "CalmTask", "ConfigExec" => some "CalmTask.ConfigExec"
  | "CalmTask", a => base a
  | "RunbookTask", "Decision" => some "RunbookTask.Decision"
  | "RunbookTask", "Exec" => some "RunbookTask.Exec"
  | "RunbookTask", "Loop" => some "RunbookTask.Loop"
  | "RunbookTask", "HTTP" => some "RunbookTask.HTTP"
  | "RunbookTask", "Input" => some "RunbookTask.Input"
  | "RunbookTask", "Confirm" => some "RunbookTask.Confirm"
  | "RunbookTask", "VMPowerOn" => some "RunbookTask.VMPowerOn"
  | "RunbookTask", "VMPowerOff" => some "RunbookTask.VMPowerOff"
  | "RunbookTask", "VMRestart" => some "RunbookTask.VMRestart"
  | "RunbookTask", a => base a
  | "BaseTask.HTTP", "get" => some "http_task_get"
  | "BaseTask.HTTP", "post" => some "http_task_post"
  | "BaseTask.HTTP", "put" => some "http_task_put"
  | "BaseTask.HTTP", "delete" => some "http_task_delete"
  | "RunbookTask.HTTP", "get" => some "http_task_get_on_endpoint"
  | "RunbookTask.HTTP", "post" => some "http_task_post_on_endpoint"
  | "RunbookTask.HTTP", "put" => some "http_task_put_on_endpoint"
  | "RunbookTask.HTTP", "delete" => some "http_task_delete_on_endpoint"
  | "BaseTask.SetVariable", "ssh" => some "set_variable_task_ssh"
  | "BaseTask.SetVariable", "powershell" => some "set_variable_task_powershell"
  | "BaseTask.SetVariable", "escript" => some "set_variable_task_escript"
  | "CalmTask.Scaling", "scale_in" => some "scale_in_task"
  | "CalmTask.Scaling", "scale_out" => some "scale_out_task"
  | "CalmTask.Exec", "ssh" => some "exec_task_ssh"
  | "CalmTask.Exec", "powershell" => some "exec_task_powershell"
  | "CalmTask.Exec", "escript" => some "exec_task_escript"
  | "RunbookTask.Decision", "ssh" => some "decision_task_ssh"
  | "RunbookTask.Decision", "powershell" => some "decision_task_powershell"
  | "RunbookTask.Decision", "escript" => some "decision_task_escript"
  | "RunbookTask.Exec", "ssh" => some "exec_task_ssh_runbook"
  | "RunbookTask.Exec", "powershell" => some "exec_task_powershell_runbook"
  | "RunbookTask.Exec", "escript" => some "exec_task_escript"
  | _, _ => none

end Blueprints.Library.Tasks
