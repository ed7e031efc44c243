import Blueprints.Flow.Visitor

namespace Blueprints

/-- Whether actions of a kind run their dag against the kind's task target. -/
def Kind.hasDagTarget (k : Kind) : Bool :=
  !(k == .simpleBlueprint || k == .vmBlueprint || k == .vmProfile)

/-- The default of a parameter of a decorated function, if it has one. -/
def Function.default? (f : Function) (name : String) : Option Value :=
  (f.defaults.find? (·.1 == name)).map (·.2)

end Blueprints

namespace Blueprints.Flow

open Library Library.Tasks Build

/-- The target that tasks of an action defined on a class run against, as the class's kind gives
    it; `none` when the kind gives no target at all. -/
def taskTarget? (r : Runtime) (e : Entity) : Build (Option Value) := do
  if e.kind == .simpleDeployment then
    match <- getRef e with
    | .entity ref =>
      let ref <- ref.set "kind" (.str "app_service")
      let ref <- ref.set "name" (.str (e.name ++ "Service"))
      return some (.entity ref)
    | v => return some v
  if e.kind.isA .package then
    let services <- r.attr (.entity e) "services"
    if services.truthy then
      return some (<- subscript services (.int 0))
    throw (.badValue "package do not have any service referenced")
  if e.kind.isA .deployment || e.kind == .service || e.kind == .publishedService ||
      e.kind == .substrate then
    return some (<- getRef e)
  if e.kind == .profile || e.kind == .vmProfile || e.kind == .simpleBlueprint ||
      e.kind == .vmBlueprint then
    return some .none
  pure none

/-- The tasks of a layout in the order in which they run, and the edges between them. -/
structure Layout where
  children : List Value := []
  edges : List (Value × Value) := []

/-- The layout with one more task taking part. -/
def Layout.addChild (l : Layout) (t : Value) : Layout := { l with children := l.children ++ [t] }

section Joining

/- Laying steps out is written for any way `ref` of referring to a task and any monad that can
fail: the library refers to tasks by reference classes (`refOf`), and the tasks themselves serve
as their own references when reasoning about which tasks are joined. -/
variable {m : Type -> Type} [Monad m] [MonadExceptOf Fault m] (ref : Value -> m Value)

/-- The layout with one more edge, between references to two tasks. -/
def Layout.link (l : Layout) (a b : Value) : m Layout := do
  let x <- ref a
  let y <- ref b
  pure { l with edges := l.edges ++ [(x, y)] }

/-- Lays out the items of the first step of a sequence, given how to lay out a sequence: each
    task takes part, joined from the task before the sequence when there is one, and a group is
    laid out as a sequence from that same task. -/
def enterItems (recur : Layout -> List Step -> Option Value -> m Layout) :
    Layout -> List Step -> Option Value -> m Layout
  | l, [], _ => pure l
  | l, .group items :: rest, fromTask => do
    enterItems recur (<- recur l items fromTask) rest fromTask
  | l, .task t :: rest, fromTask => do
    let l := l.addChild t
    let l <- match fromTask with
      | some f => l.link ref f t
      | none => pure l
    enterItems recur l rest fromTask

/-- Joins each item of a step to one item of the step after it: a task to a task by an edge; a
    task alone to a group by laying the group out as a sequence from it. A group cannot be
    joined from, and several tasks cannot be joined to a group. -/
def joinTarget (recur : Layout -> List Step -> Option Value -> m Layout) (single : Bool)
    (target : Step) : Layout -> List Step -> m Layout
  | l, [] => pure l
  | _, .group _ :: _ => throw (Fault.badValue "Tasks are not supported after parallel in runbooks")
  | l, .task ft :: froms => do
    let l <- match target with
      | .group items =>
        if single then recur l items (some ft)
        else do
          let _ <- ref ft
          throw (Fault.missingAttribute "'list' object has no attribute 'get_ref'")
      | .task tt => l.link ref ft tt
    joinTarget recur single target l froms

/-- Joins the items of a step to each item of the step after it; each task of the later step
    takes part. -/
def joinItems (recur : Layout -> List Step -> Option Value -> m Layout) (froms : List Step) :
    Layout -> List Step -> m Layout
  | l, [] => pure l
  | l, target :: targets => do
    let l := match target with
      | .task t => l.addChild t
      | .group _ => l
    let l <- joinTarget ref recur (froms.length == 1) target l froms
    joinItems recur froms l targets

/-- Joins each step of a sequence to the step after it. -/
def joinSteps (recur : Layout -> List Step -> Option Value -> m Layout) :
    Layout -> List Step -> m Layout
  | l, a :: b :: rest => do joinSteps recur (<- joinItems ref recur a.items l b.items) (b :: rest)
  | l, _ => pure l

/-- Joins the steps of a sequence by edges: each step to the next, the items of a group each to
    the task before and after the group, and a group of branches branch by branch from the task
    before it. A group may not be followed by anything. -/
def createEdges : Nat -> Layout -> List Step -> Option Value -> m Layout
  | 0, _, _, _ => throw Fault.tooDeep
  | _ + 1, l, [], _ => pure l
  | n + 1, l, first :: rest, fromTask => do
    let l <- enterItems ref (createEdges n) l first.items fromTask
    joinSteps ref (createEdges n) l (first :: rest)

end Joining

/-- The target that the tasks of a function's body run against, for the class that owns it: the
    class's own target where its kind gives actions one and it is set, else the target the
    function had. -/
def bodyTarget (r : Runtime) (f : Function) (owner : Option Entity) : Build Value := do
  let previous := (f.field? "task_target").getD .none
  match owner with
  | some e =>
    if e.kind.hasDagTarget then
      match <- taskTarget? r e with
      | some t => pure (if t.truthy then t else previous)
      | none => pure previous
    else pure previous
  | none => pure previous

/-- How a function's body is read: against the target, as a runbook or an action; the body of a
    runbook also sees the credentials and endpoints that its parameters give. -/
def bodyContext (f : Function) (target : Value) (isRunbook : Bool) : VisitCtx :=
  let locals := if isRunbook then
      ["credentials", "endpoints"].filterMap fun p => match f.default? p with
        | some v => if v.truthy then some (p, v) else none
        | none => none
    else []
  { target, isRunbook, locals }

/-- Reads the defaults of a function's parameters and then its body; a fault while reading is
    logged and ends the command. -/
def readBody (r : Runtime) (f : Function) (ctx : VisitCtx) : Build Gather := do
  let defaults := f.defn.params.filterMap (·.default)
  try
    let g <- visitExprs r ctx VisitCtx.depth {} defaults
    visitBlock r ctx VisitCtx.depth g f.defn.body
  catch
    | .exit s => throw (.exit s)
    | fault => do
      logError fault.message
      throw (.exit "-1")

/-- Builds the dag and the runbook of a body read into `g`: the dag joins the steps in order, and
    the runbook runs the dag first and then the body's tasks. The function comes back with the
    target, dag and runbook recorded in its fields. -/
def dagRunbook (r : Runtime) (f : Function) (owner : Option Entity) (isRunbook : Bool)
    (target : Value) (g : Gather) : Build (Function × Value) := do
  let layout <- createEdges (refOf r) VisitCtx.depth {} g.steps none
  let pfx := match owner with
    | some e => displayName e ++ "_" ++ f.defn.name
    | none => f.defn.name
  let edges <- dagEdges r (.list (layout.edges.map fun (a, b) => .tuple [a, b]))
  let dag <- groupTask r "DAG" "_dag" (.str (pfx ++ "_dag"))
    (.list (if isRunbook then layout.children else g.tasks))
    [("attrs", textDict [("edges", .list edges)])] target
  let rb <- Entity.create .runbook (some (pfx ++ "_runbook")) [] none
    [("name", .str (pfx ++ "_runbook"))]
  let rb <- rb.set "main_task_local_reference" (<- refOf r dag)
  let rb <- rb.set "tasks" (.list (dag :: g.tasks))
  let rb <- rb.set "variables" (.list (g.declaredVars.map (·.2)))
  let f := ((f.setField "task_target" target).setField "user_dag" dag).setField "user_runbook"
    (.entity rb)
  pure (f, .entity rb)

/-- Reads a decorated function's body for a class (or for none) and builds its dag and runbook. -/
def buildRunbook (r : Runtime) (f : Function) (owner : Option Entity) (isRunbook : Bool) :
    Build (Function × Value) := do
  let target <- bodyTarget r f owner
  let g <- readBody r f (bodyContext f target isRunbook)
  dagRunbook r f owner isRunbook target g

/-- The text of a value as formatting writes it. -/
def formatted (v : Value) : String := v.toText

/-- Wraps a runbook read from a function decorated as a runbook in a runbook service, with the
    credentials, endpoints and default target that the function's parameters give. -/
def runbookService (r : Runtime) (f : Function) (rb : Value) : Build Value := do
  let rsRoot <- root .runbookService
  let service <- Entity.create .runbookService none [rsRoot] none [("runbook", rb)]
  let args := f.defn.params.map fun p => (p.name, f.default? p.name)
  for (name, _) in args do
    if name != "credentials" && name != "endpoints" && name != "default" then
      throw (.badValue (name ++ " is an unexpected argument."))
  let get (name : String) (dflt : Value) : Value :=
    match args.find? (·.1 == name) with
    | some (_, some v) => v
    | some (_, none) => .none
    | none => dflt
  let credentials := get "credentials" (.list [])
  let endpoints := get "endpoints" (.list [])
  let defaultTarget := get "default" (.int 0)
  let endpointType := "<class 'calm.dsl.builtins.models.endpoint.EndpointType'>"
  let creds <- match credentials with
    | .list xs => pure xs
    | v => throw (.wrongType (formatted v ++ " is not of type <class 'list'>"))
  for c in creds do
    if !c.isKind .credential then
      throw (.wrongType (formatted c ++ " is not of type " ++ endpointType))
  let eps <- match endpoints with
    | .list xs => pure xs
    | v => throw (.wrongType (formatted v ++ " is not of type <class 'list'>"))
  for ep in eps do
    if !ep.isKind .endpoint then
      throw (.wrongType (formatted ep ++ " is not of type " ++ endpointType))
    if !(<- r.attr ep "type").truthy then
      throw (.badValue ("Existing endpoint " ++ formatted ep ++
        " are not allowed in endpoints argument."))
  let mut service := service
  match defaultTarget with
  | .bool false => pure ()
  | .entity e =>
    if e.kind == .ref then service <- service.set "default_target" defaultTarget
    else throw (.wrongType (formatted defaultTarget ++
      " is not of type <class 'calm.dsl.builtins.models.ref.RefType'> or Integer"))
  | .int _ | .bool _ =>
    let i : Int := match defaultTarget with
      | .int i => i
      | .bool true => 1
      | _ => 0
    if !eps.isEmpty then
      if (eps.length : Int) ≤ i then
        throw (.wrongType ("No Endpoint preset at " ++ toString i ++ " index for default Target"))
      let ep <- itemAt eps i "list"
      service <- service.set "default_target" (<- refOf r ep)
  | v => throw (.wrongType (formatted v ++
      " is not of type <class 'calm.dsl.builtins.models.ref.RefType'> or Integer"))
  service <- service.set "credentials" credentials
  service <- service.set "endpoints" endpoints
  pure (.entity service)

/-- Reads a function decorated as a runbook, for a class or for none: its runbook service. The
    function comes back with what was built recorded in its fields. -/
def runbookOf (r : Runtime) (f : Function) (owner : Option Entity) : Build (Function × Value) := do
  let (f, rb) <- buildRunbook r f owner true
  let service <- runbookService r f rb
  pure (f.setField "runbook" service, service)

/-- Whether a function name is written with two underscores on each side. -/
def isDunderName (name : String) : Bool := name.startsWith "__" && name.endsWith "__"

/-- Moves the targets of the tasks of an imported runbook: with a mapping, each task's own target
    becomes the target it runs on and the mapping gives its new target by task name; without
    one, a task targeting an endpoint runs on that endpoint against the action's target. -/
def retarget (r : Runtime) (mapping target : Value) (task : Value) : Build Value := do
  let .entity e := task | return task
  let mut e := e
  let current := (e.lookup? "target_any_local_reference").getD .none
  if mapping.truthy then
    if current.truthy then
      e <- e.set "exec_target_reference" current
      e <- e.set "target_any_local_reference" .none
    let name := (e.lookup? "name").getD .none
    match mapping with
    | .dict entries =>
      match entries.find? (fun (k, _) => k.equal name) with
      | some (_, t) => e <- e.set "target_any_local_reference" t
      | none => pure ()
    | _ => pure ()
  else if current.truthy then
    let kind <- r.attr current "kind"
    if kind.isText "app_endpoint" then
      e <- e.set "exec_target_reference" current
      e <- e.set "target_any_local_reference" target
  pure (.entity e)

/-- The action that a function decorated as an action becomes on a class. -/
def actionOf (r : Runtime) (f : Function) (owner : Entity) : Build Value := do
  let imported := ((f.field? "imported_action").getD .none).truthy
  if imported then
    for p in f.defn.params do
      if p.name == "endpoints" || p.name == "credentials" then
        logError (p.name ++ " are not supported for imported runbooks. Please use existing " ++
          p.name ++ " in the tasks.")
        throw (.exit ("Unknown parameter '" ++ p.name ++ "' for imported runbooks"))
      if p.name == "default" then
        logError "default are not supported for imported runbooks"
        throw (.exit "Unknown parameter 'default' for imported runbooks")
  let (f, rb) <- buildRunbook r f (some owner) false
  let mut actionName : Value := .str f.actionName
  let mut actionType := "user"
  let funcName := f.defn.name.toLower
  if isDunderName funcName then
    match owner.kind.systemActions.find? (·.1 == funcName) with
    | some (_, n) =>
      actionType := "system"
      actionName := .str n
    | none =>
      match owner.kind.fragmentActions.find? (·.1 == funcName) with
      | some (_, n) =>
        actionType := "fragment"
        actionName := .str n
      | none => pure ()
  else if f.defn.params.any (·.name == "name") then
    let dflt := (f.default? "name").getD .none
    if !dflt.equal actionName then actionName := dflt
  let mut rb := rb
  if imported then
    let mapping := (f.field? "task_target_mapping").getD .none
    let target := (f.field? "task_target").getD .none
    match rb with
    | .entity e =>
      match e.lookup? "tasks" with
      | some (.list (first :: rest)) =>
        let rest' <- rest.mapM (retarget r mapping target)
        rb := .entity (e.setAttr "tasks" (.list (first :: rest')))
      | _ => pure ()
    | _ => pure ()
  let actionRoot <- root .action
  let description := (f.field? "action_description").getD (.str "")
  let cls <- makeClass .action actionName [actionRoot]
    [("name", actionName), ("description", description),
     ("critical", .bool (actionType == "system")), ("type", .str actionType), ("runbook", rb)]
  pure (.entity cls)

/-- The value of a decorated function read from a class: an action, or a runbook service. -/
def descriptorGet (r : Runtime) (f : Function) (owner : Entity) : Build Value := do
  match f.decorator with
  | .action => actionOf r f owner
  | .runbook => do pure (<- runbookOf r f (some owner)).2
  | .plain => pure (.function f)

/-- The fields that decorating a function sets. -/
def decoratedFields (f : Function) (mapping imported : Value) : List (String × Value) :=
  [("action_name", .str f.defn.name),
   ("action_description", .str (f.defn.doc.getD "")),
   ("user_runbook", .none), ("task_target", .none),
   ("task_target_mapping", mapping), ("imported_action", imported)]

/-- The function of a value given to a decorator. -/
def userFunction (v : Value) : Build Function :=
  match v with
  | .function f => pure f
  | v => throw (v.noAttribute "__name__")

def decorateAction (f : Function) (mapping imported : Value) : Value :=
  .function (.mk .action f.defn f.defaults (decoratedFields f mapping imported))

/-- Decorates a function as a runbook: the runbook is built at once. -/
def decorateRunbook (r : Runtime) (f : Function) : Build Value := do
  let g := Function.mk .runbook f.defn f.defaults (decoratedFields f (.dict []) (.bool false))
  let (g, _) <- runbookOf r g none
  pure (.function g)

/-- The decorators and the functions on decorated functions, by name. -/
def builtin? (r : Runtime) (name : String) : Option Builtin :=
  match name with
  | "action" => some {
      sig := { qualName := "action.__init__", implicit := 1,
               params := [req "user_func", opt "task_target_mapping" (.dict []),
                          opt "imported_action" (.bool false)] }
      run := fun b => do
        let f <- userFunction (b.get "user_func")
        pure (decorateAction f (b.get "task_target_mapping") (b.get "imported_action")) }
  | "runbook" => some {
      sig := { qualName := "runbook.__init__", implicit := 1, params := [req "user_func"] }
      run := fun b => do decorateRunbook r (<- userFunction (b.get "user_func")) }
  | "get_runbook_action" => some {
      sig := { qualName := "get_runbook_action", params := [req "runbook_obj", opt "targets" (.dict [])] }
      run := fun b => do
        let f <- match b.get "runbook_obj" with
          | .function f => pure f
          | v => throw (v.noAttribute "user_func")
        pure (decorateAction f (b.get "targets") (.bool true)) }
  | "runbook_json" => some {
      sig := { qualName := "runbook_json", params := [req "DslRunbook"] }
      run := fun b => do
        let v := b.get "DslRunbook"
        match v with
        | .function f =>
          if f.decorator == .plain then
            throw (.wrongType (v.toText ++
              " is not of type runbook"))
          let service <- r.attr v "runbook"
          r.call (<- r.attr service "json_dumps") [] [("pprint", .bool true)]
        | _ => throw (.wrongType (v.toText ++
            " is not of type runbook")) }
  | "runbook_create" => some {
      sig := { qualName := "runbook_create", params := [], varKw := true }
      run := fun b => do
        let name := match b.extra? "name" with
          | some v => v
          | none => (b.extra? "__name__").getD .none
        pure (.entity (<- makeClass .runbook name [] b.extra)) }
  | "action_create" => some {
      sig := { qualName := "_action_create", params := [], varKw := true }
      run := fun b => do
        let name := match b.extra? "name" with
          | some v => v
          | none => (b.extra? "__name__").getD .none
        pure (.entity (<- makeClass .action name [<- root .action] b.extra)) }
  | _ => none

/-- Calls a decorated function: an action's function makes a task that calls its runbook, once
    the action has been built. -/
def callDecorated (r : Runtime) (f : Function) (args : List Value)
    (kwargs : List (String × Value)) : Build Value := do
  let qual := match f.decorator with
    | .runbook => "runbook.__call__"
    | _ => "action.__call__"
  let b <- match Signature.bind { qualName := qual, implicit := 1, params := [opt "name" .none] }
      args kwargs with
    | .ok b => pure b
    | .error e => throw e
  match f.decorator with
  | .action =>
    let rb := (f.field? "user_runbook").getD .none
    if rb.truthy then callRunbook r rb .none (b.get "name") else pure .none
  | _ => pure .none

end Blueprints.Flow
