import Blueprints.Flow.Interp

namespace Blueprints.Flow

open Library Library.Tasks

/-- The shape in which tasks run: a task, or a group of shapes. -/
inductive Step where
  | task (t : Value)
  | group (items : List Step)
deriving Inhabited

/-- What reading a body gathers. -/
structure Gather where
  steps : List Step := []
  tasks : List Value := []
  declaredVars : List (String × Value) := []
deriving Inhabited

/-- How a body is read. -/
structure VisitCtx where
  target : Value := .none
  isRunbook : Bool := false
  isMeta : Bool := false
  locals : List (String × Value) := []

/-- The name of the kind of syntax node that an expression is. -/
def nodeName : Expr -> String
  | .lit _ => "Constant"
  | .name _ => "Name"
  | .attr _ _ => "Attribute"
  | .call _ _ _ => "Call"
  | .list _ => "List"
  | .tuple _ => "Tuple"
  | .dict _ => "Dict"
  | .index _ _ => "Subscript"
  | .binary _ _ _ => "BinOp"
  | .compare _ _ _ => "Compare"
  | .not _ | .neg _ => "UnaryOp"
  | .and _ _ | .or _ _ => "BoolOp"
  | .cond _ _ _ => "IfExp"
  | .format _ => "JoinedStr"
  | .other kind _ => kind

/-- The name of the kind of syntax node that a statement is. -/
def stmtNodeName : Stmt -> String
  | .expr _ => "Expr"
  | .assign _ _ => "Assign"
  | .withBlock _ _ _ => "With"
  | .ifThen _ _ _ => "If"
  | .pass => "Pass"
  | .other kind _ _ => kind

/-- The name at the root of a callee, found by following the objects of attributes and
    subscripts. -/
def rootName : Expr -> Build String
  | .name id => pure id
  | .attr obj _ => rootName obj
  | .index obj _ => rootName obj
  | .lit l => throw (.missingAttribute ("'" ++ (match l with
      | .none => "NoneType" | .bool _ => "bool" | .int _ => "int" | .float _ => "float"
      | .str _ => "str") ++ "' object has no attribute 'value'"))
  | e => throw (.missingAttribute ("'" ++ nodeName e ++ "' object has no attribute 'value'"))

def isTask (v : Value) : Bool := v.isKind .task

/-- Gives a task the target when it has none of its own. -/
def withTarget (r : Runtime) (ctx : VisitCtx) (task : Value) : Build Value := do
  if ctx.target.isNone then return task
  let current <- r.attr task "target_any_local_reference"
  if current.truthy then return task
  match task with
  | .entity e => pure (.entity (<- e.set "target_any_local_reference" ctx.target))
  | v => pure v

def refOf (r : Runtime) (t : Value) : Build Value := do
  match t with
  | .entity e => getRef e
  | v => r.call (<- r.attr v "get_ref") [] []

/-- The `__calm_type__` of a context value, if it has one. -/
def calmType (v : Value) : Option String :=
  match v with
  | .builtin ["parallel"] | .object "parallel" _ => some "parallel"
  | .builtin ["branch"] | .object "branch" _ => some "branch"
  | _ => none

/-- Adds variables, a name given again keeping its first place. -/
def mergeVariables (acc new : List (String × Value)) : List (String × Value) :=
  new.foldl (fun a (k, v) => upsert a k v) acc

/-- The children of an expression, in the order the syntax tree lists them. -/
def children : Expr -> List Expr
  | .attr obj _ => [obj]
  | .call fn args kwargs => fn :: args ++ kwargs.map (·.2)
  | .list items | .tuple items => items
  | .dict entries => entries.map (·.1) ++ entries.map (·.2)
  | .index obj key => [obj, key]
  | .binary _ a b | .compare _ a b | .and a b | .or a b => [a, b]
  | .not a | .neg a => [a]
  | .cond t y n => [t, y, n]
  | .format parts => parts.filterMap fun p => match p with
    | .inr (e, _) => some e
    | .inl _ => none
  | .other _ parts => parts
  | _ => []

/-- The gather with a task added, both as a step and among all tasks. -/
def Gather.addTask (g : Gather) (t : Value) : Gather :=
  { g with steps := g.steps ++ [.task t], tasks := g.tasks ++ [t] }

mutual
/-- Searches an expression for calls, each of which may make a task. -/
def visitExpr (r : Runtime) (ctx : VisitCtx) : Nat -> Gather -> Expr -> Build Gather
  | 0, _, _ => throw .tooDeep
  | n + 1, g, e =>
    match e with
    | .call _ _ _ => do
      let (g', _) <- visitCall r ctx n g e false
      pure g'
    | _ => visitExprs r ctx n g (children e)

/-- Searches expressions for calls, in order. -/
def visitExprs (r : Runtime) (ctx : VisitCtx) : Nat -> Gather -> List Expr -> Build Gather
  | 0, _, _ => throw .tooDeep
  | _ + 1, g, [] => pure g
  | n + 1, g, e :: es => do visitExprs r ctx n (<- visitExpr r ctx n g e) es

/-- Evaluates a call; a task it makes is added (or, when asked, returned), and the arguments of
    a call that makes anything else are searched. -/
def visitCall (r : Runtime) (ctx : VisitCtx) : Nat -> Gather -> Expr -> Bool ->
    Build (Gather × Option Value)
  | 0, _, _, _ => throw .tooDeep
  | n + 1, g, e, returnTask => do
    match e with
    | .call fn _ _ =>
      let root <- rootName fn
      let _ <- lookupName ctx.locals root
      let v <- eval r ctx.locals e
      if isTask v then
        let task <- withTarget r ctx v
        if returnTask then return (g, some task)
        return (g.addTask task, none)
      let g' <- visitExprs r ctx n g (children e)
      pure (g', none)
    | _ => do pure (<- visitExpr r ctx n g e, none)
end

/-- Whether a value is one of the two variable constructors' owners. -/
def isVariableOwner (v : Value) : Bool :=
  match v with
  | .builtin ["CalmVariable"] | .builtin ["RunbookVariable"] => true
  | _ => false

/-- The items of a step as a sequence: a task alone, or the items of a group. -/
def Step.items : Step -> List Step
  | .task t => [.task t]
  | .group items => items

/-- A literal that the syntax tree holds as a number: an integer or a decimal that is not
    negative (a negative number is written as a negation) and not a truth value. -/
def numberLiteral? : Expr -> Option Value
  | .lit (.int n) => if n < 0 then none else some (.int n)
  | .lit (.float x) => if x.mantissa < 0 then none else some (.float x)
  | _ => none

/-- The object of an attribute test `v.attr`, as the syntax tree holds it. -/
def attrTest? : Expr -> Option (Expr × String)
  | .attr obj field => some (obj, field)
  | _ => none

/-- The object and field of an attribute test, or the error that asking a node of another kind
    for its value raises. -/
def attrTestOf (e : Expr) : Build (Expr × String) :=
  match attrTest? e with
  | some p => pure p
  | none => throw (.missingAttribute ("'" ++ nodeName e ++ "' object has no attribute 'value'"))

/-- The name that a name expression holds, or the error that asking a node of another kind for
    its name raises. -/
def nameOf (e : Expr) : Build String :=
  match e with
  | .name id => pure id
  | e => throw (.missingAttribute ("'" ++ nodeName e ++ "' object has no attribute 'id'"))

/-- The expression that a statement holds as its value, or the error that asking a statement
    of another kind for it raises. -/
def stmtValue (s : Stmt) : Build Expr :=
  match s with
  | .expr e => pure e
  | .assign _ v => pure v
  | s => throw (.missingAttribute ("'" ++ stmtNodeName s ++ "' object has no attribute 'value'"))

/-- Makes the meta task that holds the tasks of a block, named from a prefix. -/
def metaOf (r : Runtime) (pfx : String) (g : Gather) : Build Value := do
  let children := g.steps.flatMap fun s => match s with
    | .task t => [t]
    | .group items => items.filterMap fun i => match i with
      | .task t => some t
      | .group _ => none
  groupTask r "META" "_meta" (.str (pfx ++ "_meta_task")) (.list children) [] .none

def taskName (r : Runtime) (task : Value) : Build String := do
  pure (<- r.attr task "name").toText

/-- The gather with the tasks and variables of a branch added. -/
def Gather.addBranch (g inner : Gather) : Gather :=
  { g with tasks := g.tasks ++ inner.tasks,
           declaredVars := mergeVariables g.declaredVars inner.declaredVars }

/-- The gather with a meta task added, followed by the tasks of the block it holds; the block's
    variables are merged in. -/
def Gather.addMeta (g : Gather) (m : Value) (inner : Gather) : Gather :=
  { g with tasks := g.tasks ++ [m] ++ inner.tasks,
           declaredVars := mergeVariables g.declaredVars inner.declaredVars }

/-- Reads the statements of a `with parallel():` block of an action, given how a call is read:
    each statement must be a call, and the tasks that the calls make form the group. -/
def parallelCalls (call : Gather -> Expr -> Build (Gather × Option Value)) :
    Gather -> List Step -> List Stmt -> Build (Gather × List Step)
  | g, group, [] => pure (g, group)
  | g, group, s :: ss => do
    let value <- stmtValue s
    match value with
    | .call _ _ _ =>
      let (g, task?) <- call g value
      match task? with
      | some t => parallelCalls call { g with tasks := g.tasks ++ [t] } (group ++ [.task t]) ss
      | none => parallelCalls call g group ss
    | _ => throw (.badValue "Only calls to 'CalmTask' methods supported inside parallel context.")

/-- Checks that the context of a branch is `branch(p)`, for the name `p` of its parallel block. -/
def checkBranchArg (var : String) (bexpr : Expr) : Build Unit := do
  let bad : Build Unit := throw (.badValue
    ("Incorrect argument is passed in 'branch()', use 'with branch(" ++ var ++ ")'"))
  match bexpr with
  | .call _ [.name a] _ => if a != var then bad
  | .call _ _ _ => bad
  | e => throw (.missingAttribute ("'" ++ nodeName e ++ "' object has no attribute 'args'"))

/-- Reads the `with branch(p):` blocks of a `with parallel() as p:` block of a runbook, given how
    a block is read: each branch is read as a body of its own and must make a task. -/
def parallelBranches (r : Runtime) (locals : List (String × Value)) (var : String)
    (block : List Stmt -> Build Gather) : Gather -> List Step -> List Stmt -> Build (Gather × List Step)
  | g, branches, [] => pure (g, branches)
  | g, branches, s :: ss => do
    match s with
    | .withBlock bexpr _ bbody =>
      checkBranchArg var bexpr
      let bctx <- eval r (locals ++ [(var, .str "var")]) bexpr
      if calmType bctx != some "branch" then
        throw (.badValue "Only with branch() contexts are supported under parallel context.")
      let inner <- block bbody
      if inner.steps.isEmpty then
        throw (.badValue "Atleast one task is required under parallel branch")
      parallelBranches r locals var block (g.addBranch inner) (branches ++ [.group inner.steps]) ss
    | _ => throw (.badValue
        "Only a single context is supported in 'with' statements inside the parallel.")

/-- Reads one flow of a decision into a meta task named from `pfx`; a flow may be given once. -/
def decisionFlow (r : Runtime) (read : Build Gather) (taken : Option Value) (again pfx : String)
    (g : Gather) : Build (Gather × Value) := do
  if taken.isSome then throw (.badValue again)
  let inner <- read
  let m <- metaOf r pfx inner
  pure (g.addMeta m inner, m)

/-- Whether a number written in a test is zero. -/
def isZeroCode (code : Option Value) : Bool :=
  match code with
  | some (.int 0) => true
  | some (.float x) => x.mantissa == 0
  | _ => false

/-- Whether a number written in a test is one. -/
def isOneCode (code : Option Value) : Bool :=
  match code with
  | some (.int 1) => true
  | some (.float x) => x.normalize.mantissa == 1 && x.normalize.exponent == 0
  | _ => false

/-- Reads the blocks of a `with` decision task named `cname` and bound to `var`, given how a
    statement and a block are read: `if var.exit_code == 0:` and `if var.ok:` give the flow taken
    on success, `if var.exit_code == 1:` and the `else:` of `if var.ok:` the flow taken on failure.
    The result holds the meta tasks of the two flows, where they were given. -/
def decisionPaths (r : Runtime) (cname var : String) (stmt : Stmt -> Build Gather)
    (block : List Stmt -> Build Gather) :
    Gather -> Option Value -> Option Value -> List Stmt -> Build (Gather × Option Value × Option Value)
  | g, success, failure, [] => pure (g, success, failure)
  | g, success, failure, s :: ss => do
    let unsupported := "Only 'if " ++ var ++ ".exit_code == 0/1' or 'if " ++ var ++
      ".ok' statements are supported in decision context"
    let trueTwice := "'True' flow is defined more than once in " ++ cname ++ " task."
    let falseTwice := "'False' flow is defined more than once in " ++ cname ++ " task."
    match s with
    | .ifThen (.compare op left right) _ orelse =>
      let (obj, field) <- attrTestOf left
      let objName <- nameOf obj
      let code := numberLiteral? right
      if !(objName == var && field == "exit_code" && op == .eq && code.isSome) then
        throw (.badValue unsupported)
      else if !isZeroCode code && !isOneCode code then
        throw (.badValue "Decision task on supports only exit_code 0 and 1.")
      else if !orelse.isEmpty then
        throw (.badValue ("elif or else are not supported in 'if " ++ var ++ ".exit_code == 0/1'"))
      else if isZeroCode code then do
        let (g, m) <- decisionFlow r (stmt s) success trueTwice (cname ++ "_success") g
        decisionPaths r cname var stmt block g (some m) failure ss
      else do
        let (g, m) <- decisionFlow r (stmt s) failure falseTwice (cname ++ "_failure") g
        decisionPaths r cname var stmt block g success (some m) ss
    | .ifThen (.attr obj "ok") sbody orelse =>
      let objName <- nameOf obj
      if objName != var then throw (.badValue unsupported)
      let (g, m) <- decisionFlow r (block sbody) success trueTwice (cname ++ "_success") g
      if orelse.isEmpty then decisionPaths r cname var stmt block g (some m) failure ss
      else
        let (g, m') <- decisionFlow r (block orelse) failure falseTwice (cname ++ "_failure") g
        decisionPaths r cname var stmt block g (some m) (some m') ss
    | .ifThen (.attr obj _) _ _ =>
      let _ <- nameOf obj
      throw (.badValue unsupported)
    | _ => throw (.badValue unsupported)

/-- A decision task with the references to the meta tasks of its two flows set in its `attrs`. -/
def withFlows (context sref fref : Value) : Value :=
  match context with
  | .entity e =>
    let attrs := match e.lookup? "attrs" with
      | some (.dict entries) => entries
      | _ => []
    let upd (xs : List (Value × Value)) (k : String) (v : Value) :=
      if xs.any (·.1.isText k) then xs.map fun (a, b) => if a.isText k then (a, v) else (a, b)
      else xs ++ [(Value.str k, v)]
    .entity (e.setAttr "attrs"
      (.dict (upd (upd attrs "success_child_reference" sref) "failure_child_reference" fref)))
  | v => v

/-- A loop task with a reference to the meta task of its block added to its children. -/
def withBody (context mref : Value) : Value :=
  match context with
  | .entity e =>
    let children := match e.lookup? "child_tasks_local_reference_list" with
      | some (.list xs) => xs
      | _ => []
    .entity (e.setAttr "child_tasks_local_reference_list" (.list (children ++ [mref])))
  | v => v

/-- Whether the callee at the root `root` of an assigned value, first found as `first`, is a
    variable constructor; the name is looked up again when the first value is not. -/
def isVariableCall (locals : List (String × Value)) (root : String) (first : Value) : Build Bool :=
  if isVariableOwner first then pure true
  else do pure (isVariableOwner (<- lookupName locals root))

/-- The name that an assignment binds: its first target, which must be a name. -/
def assignedName (targets : List Expr) : Build String :=
  match targets.head? with
  | some t => nameOf t
  | none => throw (.outOfRange "list index out of range")

/-- Reads an assignment, given how its expressions are searched otherwise (`generic`): a
    variable constructor assigned to a single name declares a variable of that name. -/
def declareVariable (r : Runtime) (locals : List (String × Value)) (generic : Build Gather)
    (g : Gather) (targets : List Expr) (value : Expr) : Build Gather :=
  match value with
  | .call fn _ _ => do
    let root <- rootName fn
    let first <- lookupName locals root
    let isVar <- isVariableCall locals root first
    if !isVar then generic
    else if targets.length > 1 then
      throw (.badValue ("not enough values to unpack (expected " ++ toString targets.length ++
        ", got 1)"))
    else do
      let target <- assignedName targets
      if g.declaredVars.any (·.1 == target) then
        throw (.unboundName ("duplicate variable name " ++ target))
      else do
        let v <- eval r locals value
        match v with
        | .entity e =>
          if e.kind.isA .variable then do
            let e' <- e.set "name" (.str target)
            pure { g with declaredVars := g.declaredVars ++ [(target, .entity e')] }
          else generic
        | _ => generic
  | _ => generic

/-- Reads a `with parallel():` block of an action, given how a call is read: the tasks that its
    calls make form a group. -/
def actionParallel (call : Gather -> Expr -> Build (Gather × Option Value)) (g : Gather)
    (body : List Stmt) : Build Gather := do
  let (g, group) <- parallelCalls call g [] body
  pure { g with steps := g.steps ++ [.group group] }

/-- Reads a `with parallel() as p:` block of a runbook, given how a branch is read: a group of the
    branches, when there is one. -/
def runbookParallel (r : Runtime) (ctx : VisitCtx) (asName : Option String)
    (block : List Stmt -> Build Gather) (g : Gather) (body : List Stmt) : Build Gather :=
  if ctx.isMeta then
    throw (.badValue "parallel is not supported in runbooks under decision or loop task context.")
  else match asName with
    | none => throw (.badValue "Parallel task must be used in the format `with parallel as p`")
    | some var => do
      let (g, branches) <- parallelBranches r ctx.locals var block g [] body
      if branches.isEmpty then pure g
      else pure { g with steps := g.steps ++ [.group branches] }

/-- Reads a `with` decision task bound to `var`, given how a statement and a block of its flows
    are read: the decision task, with references to the meta tasks of both flows. -/
def decisionTask (r : Runtime) (context : Value) (var : String) (stmt : Stmt -> Build Gather)
    (block : List Stmt -> Build Gather) (g : Gather) (body : List Stmt) : Build Gather := do
  let cname <- taskName r context
  let (g, success, failure) <- decisionPaths r cname var stmt block g none none body
  match success, failure with
  | some sm, some fm => do
    let sref <- refOf r sm
    let fref <- refOf r fm
    pure (g.addTask (withFlows context sref fref))
  | _, _ => throw (.badValue "Both 'True' and 'False' flows are required for decision task.")

/-- Reads a `with` loop task, given how its block is read: the meta task of the block, its
    tasks, and the loop task with a reference to the meta task. -/
def loopTask (r : Runtime) (context : Value) (block : List Stmt -> Build Gather) (g : Gather)
    (body : List Stmt) : Build Gather := do
  let cname <- taskName r context
  let inner <- block body
  let m <- metaOf r (cname ++ "_loop") inner
  let mref <- refOf r m
  pure ((g.addMeta m inner).addTask (withBody context mref))

/-- The type of a task that is the context of a `with` block; none for another context. -/
def contextTypeOf (r : Runtime) (context : Value) : Build (Option Value) :=
  if isTask context then do pure (some (<- r.attr context "type")) else pure none

/-- Reads a `with` block whose context is not a parallel block, given how a statement and a
    block under a decision or loop are read: a decision or loop task of a runbook. -/
def taskContext (r : Runtime) (isRunbook : Bool) (context : Value) (asName : Option String)
    (stmt : Stmt -> Build Gather) (block : List Stmt -> Build Gather) (g : Gather)
    (body : List Stmt) : Build Gather := do
  let contextType <- contextTypeOf r context
  if isRunbook && contextType.any (·.isText "DECISION") then
    match asName with
    | some var => decisionTask r context var stmt block g body
    | none => throw (.badValue
        "Decision task must be used in the format `with Task.Decision() as val`")
  else if isRunbook && contextType.any (·.isText "WHILE_LOOP") then
    loopTask r context block g body
  else throw (.badValue "Unsupported context used in 'with' statement inside the action.")

mutual
def visitBlock (r : Runtime) (ctx : VisitCtx) : Nat -> Gather -> List Stmt -> Build Gather
  | 0, _, _ => throw .tooDeep
  | _ + 1, g, [] => pure g
  | n + 1, g, s :: ss => do visitBlock r ctx n (<- visitStmt r ctx n g s) ss

def visitStmt (r : Runtime) (ctx : VisitCtx) : Nat -> Gather -> Stmt -> Build Gather
  | 0, _, _ => throw .tooDeep
  | n + 1, g, s =>
    match s with
    | .expr e => visitExpr r ctx n g e
    | .pass => pure g
    | .ifThen test body orelse => do
      let g <- visitExpr r ctx n g test
      let g <- visitBlock r ctx n g body
      visitBlock r ctx n g orelse
    | .assign targets value => visitAssign r ctx n g targets value
    | .withBlock cexpr asName body => visitWith r ctx n g cexpr asName body
    | .other _ exprs blocks => do
      let mut g <- visitExprs r ctx n g exprs
      for b in blocks do g <- visitBlock r ctx n g b
      pure g

/-- Reads an assignment: a variable constructor assigned to a name declares a variable; any
    other assignment is searched for calls. -/
def visitAssign (r : Runtime) (ctx : VisitCtx) : Nat -> Gather -> List Expr -> Expr -> Build Gather
  | 0, _, _, _ => throw .tooDeep
  | n + 1, g, targets, value =>
    declareVariable r ctx.locals (do visitExpr r ctx n (<- visitExprs r ctx n g targets) value) g
      targets value

/-- Reads a `with` block: parallel tasks, branches, decisions and loops. -/
def visitWith (r : Runtime) (ctx : VisitCtx) : Nat -> Gather -> Expr -> Option String ->
    List Stmt -> Build Gather
  | 0, _, _, _, _ => throw .tooDeep
  | n + 1, g, cexpr, asName, body => do
    let context <- eval r ctx.locals cexpr
    let ctype := calmType context
    let metaCtx : VisitCtx := { ctx with target := .none, isRunbook := true, isMeta := true }
    if !ctx.isRunbook && ctype == some "parallel" then
      actionParallel (fun g e => visitCall r ctx n g e true) g body
    else if ctx.isRunbook && ctype == some "parallel" then
      runbookParallel r ctx asName (visitBlock r { ctx with target := .none, isMeta := false } n {})
        g body
    else
      taskContext r ctx.isRunbook context asName (visitStmt r metaCtx n {})
        (visitBlock r metaCtx n {}) g body
end

/-- How deeply the statements and expressions of a body may nest. -/
def VisitCtx.depth : Nat := 512

end Blueprints.Flow
