import Blueprints.Evaluator

namespace Blueprints.Request

open Library

/-- The names of system actions, which paths may use although they start with an underscore. -/
def systemActionNames : List String :=
  ["__create__", "__start__", "__stop__", "__delete__", "__restart__", "__soft_delete__",
   "__install__", "__uninstall__", "__pre_create__", "__post_delete__"]

/-- The value of a name at the head of a path: a definition, else a name of the library. -/
def headValue (name : String) : Build Value := do
  match <- Build.global? name with
  | some v => pure v
  | none =>
    match <- globalName? name with
    | some v => pure v
    | none => throw (.unsupported ("unknown name " ++ name))

def resolvePath (r : Runtime) (path : String) : Build Value := do
  let parts := path.splitOn "."
  for p in parts do
    if p.startsWith "_" && !systemActionNames.contains p then
      throw (.unsupported ("private name in path " ++ path))
  match parts with
  | [] => throw (.unsupported ("unknown name " ++ path))
  | head :: rest => do
    let mut v <- headValue head
    for p in rest do v <- r.attr v p
    pure v

/-- The text of a JSON text field of a form. -/
def textOf (j : Json) : String :=
  match j with
  | .str s => s
  | other => Json.render .compact other

/-- The keys of an object as the language lists them. -/
def keysRepr (fields : List (String × Json)) : String :=
  (Value.list (fields.map fun (k, _) => Value.str k)).repr

/-- Whether a text is an identifier that may name something: not a reserved word. -/
def goodIdentifier (s : String) : Bool := Text.isIdentifier s && !Text.keywords.contains s

/-- A fresh hidden name for a value that a function body refers to. -/
def hiddenName : Build String := do
  let n := (<- get).globals.length
  pure ("_hidden_" ++ toString n)

mutual
/-- Evaluates a form, to a bounded nesting depth. -/
def evalForm (r : Runtime) : Nat -> Json -> Build Value
  | 0, _ => throw .tooDeep
  | n + 1, j =>
    match j with
    | .arr items => do
      let mut vs : Array Value := #[]
      for x in items do vs := vs.push (<- evalForm r n x)
      pure (.list vs.toList)
    | .obj fields =>
      if !fields.any (·.1.startsWith "$") then do
        let mut es : Array (Value × Value) := #[]
        for (k, x) in fields do es := es.push (.str k, <- evalForm r n x)
        pure (.dict es.toList)
      else evalDollar r n fields
    | other => pure (.ofJson other)

def evalDollar (r : Runtime) (n : Nat) (fields : List (String × Json)) : Build Value := do
  let get? (k : String) : Option Json := (fields.find? (·.1 == k)).map (·.2)
  if let some x := get? "$lit" then return .ofJson x
  if let some x := get? "$def" then
    let name := textOf x
    match <- Build.global? name with
    | some v => return v
    | none => throw (.unsupported ("unknown def " ++ name))
  if let some x := get? "$get" then return <- resolvePath r (textOf x)
  if let some x := get? "$call" then
    let f <- resolvePath r (textOf x)
    let args <- match get? "args" with
      | some (.arr items) => items.mapM (evalForm r n)
      | some other => do pure [<- evalForm r n other]
      | none => pure []
    let kwargs <- match get? "kwargs" with
      | some (.obj kws) => kws.mapM fun (k, v) => do pure (k, <- evalForm r n v)
      | _ => pure []
    return <- r.call f args kwargs
  if let some x := get? "$ref" then
    let v <- evalForm r n x
    return <- r.call (.builtin ["ref"]) [v] []
  if let some x := get? "$tuple" then
    match <- evalForm r n x with
    | .list items => return .tuple items
    | v => return .tuple [v]
  if let some x := get? "$item" then
    match x with
    | .arr [obj, key] => return <- subscript (<- evalForm r n obj) (<- evalForm r n key)
    | _ => throw (.unsupported "bad $item")
  if let some x := get? "$intkeys" then
    match x with
    | .arr pairs =>
      let mut es : Array (Value × Value) := #[]
      for p in pairs do
        match p with
        | .arr [k, v] =>
          let kv <- evalForm r n k
          let vv <- evalForm r n v
          es := if es.any (·.1.equal kv) then
              es.map (fun (a, b) => if a.equal kv then (a, vv) else (a, b))
            else es.push (kv, vv)
        | _ => throw (.unsupported "bad $intkeys")
      return .dict es.toList
    | _ => throw (.unsupported "bad $intkeys")
  if let some x := get? "$status" then
    return <- r.attr (.builtin ["Status"]) (textOf x)
  if let some x := get? "$decompile" then
    let typeName := textOf x
    let some kind := Kind.ofSchemaName? typeName
      | throw (.unsupported ("unknown entity type " ++ typeName))
    let cdict <- match get? "cdict" with
      | some c => evalForm r n c
      | none => pure .none
    let pre := match get? "prefix" with
      | some (.str p) => p
      | _ => ""
    return .entity (<- Decompile.decompile r kind cdict pre)
  if let some x := get? "$class" then return <- evalClass r n x fields
  if let some x := get? "$action" then return <- evalFunction r n .action x
  if let some x := get? "$runbook" then return <- evalFunction r n .runbook x
  throw (.unsupported ("unknown form " ++ keysRepr fields))

/-- Evaluates a `$class` form: a class derived from a definition or a root class. -/
def evalClass (r : Runtime) (n : Nat) (baseJson : Json) (fields : List (String × Json)) :
    Build Value := do
  let get? (k : String) : Option Json := (fields.find? (·.1 == k)).map (·.2)
  let baseName := textOf baseJson
  let base? <- match <- Build.global? baseName with
    | some v => pure (some v)
    | none => globalName? baseName
  let base <- match base? with
    | some (.entity e) => pure e
    | _ => throw (.unsupported ("unknown base " ++ baseName))
  let name := match get? "name" with
    | some (.str s) => s
    | _ => ""
  let doc := match get? "doc" with
    | some (.str s) => some s
    | _ => none
  let mut attrs : Array (String × Value) := #[]
  match get? "attrs" with
  | some (.obj kvs) =>
    for (k, x) in kvs do attrs := attrs.push (k, <- evalForm r n x)
  | _ => pure ()
  let cls <- Entity.create base.kind (some name) [base] doc attrs.toList
  pure (.entity cls)

/-- Renders a form as an expression of a function body. -/
def renderExpr (r : Runtime) : Nat -> Json -> Build Expr
  | 0, _ => throw .tooDeep
  | n + 1, j =>
    match j with
    | .null => pure (.lit .none)
    | .bool b => pure (.lit (.bool b))
    | .int i => pure (.lit (.int i))
    | .float x => pure (.lit (.float x))
    | .str s => pure (.lit (.str s))
    | .arr items => do pure (.list (<- items.mapM (renderExpr r n)))
    | .obj fields =>
      if !fields.any (·.1.startsWith "$") then do
        let es <- fields.mapM fun (k, x) => do pure (Expr.lit (.str k), <- renderExpr r n x)
        pure (.dict es)
      else renderDollar r n fields

/-- Renders a form with a `$` key as an expression of a function body. -/
def renderDollar (r : Runtime) (n : Nat) (fields : List (String × Json)) : Build Expr := do
  let get? (k : String) : Option Json := (fields.find? (·.1 == k)).map (·.2)
  let pathExpr (path : String) : Build Expr := do
    let parts := path.splitOn "."
    for p in parts do
      if !goodIdentifier p then throw (.unsupported ("bad identifier " ++ p))
    match parts with
    | [] => throw (.unsupported "bad identifier")
    | head :: rest => pure (rest.foldl (fun e p => Expr.attr e p) (Expr.name head))
  if let some x := get? "$call" then
    let f <- pathExpr (textOf x)
    let args <- match get? "args" with
      | some (.arr items) => items.mapM (renderExpr r n)
      | some other => do pure [<- renderExpr r n other]
      | none => pure []
    let kwargs <- match get? "kwargs" with
      | some (.obj kws) => kws.mapM fun (k, v) => do pure (k, <- renderExpr r n v)
      | _ => pure []
    return .call f args kwargs
  if let some x := get? "$get" then return <- pathExpr (textOf x)
  if let some x := get? "$def" then return <- pathExpr (textOf x)
  if let some x := get? "$param" then
    let p := textOf x
    if !goodIdentifier p then throw (.unsupported ("bad identifier " ++ p))
    return .name p
  if let some x := get? "$ref" then return .call (.name "ref") [<- renderExpr r n x] []
  if let some x := get? "$intkeys" then
    match x with
    | .arr pairs =>
      let es <- pairs.mapM fun p => match p with
        | .arr [k, v] => do pure (<- renderExpr r n k, <- renderExpr r n v)
        | _ => throw (.unsupported "bad $intkeys")
      return .dict es
    | _ => throw (.unsupported "bad $intkeys")
  if let some x := get? "$status" then return .attr (.name "Status") (textOf x)
  if let some x := get? "$tuple" then
    match x with
    | .arr items => return .tuple (<- items.mapM (renderExpr r n))
    | other => return .tuple [<- renderExpr r n other]
  if let some x := get? "$item" then
    match x with
    | .arr [obj, key] => return .index (<- renderExpr r n obj) (<- renderExpr r n key)
    | _ => throw (.unsupported "bad $item")
  let v <- evalDollar r n fields
  let hidden <- hiddenName
  Build.bindGlobal hidden v
  pure (.name hidden)

/-- Renders a block of statements; an empty block is `pass`. -/
def renderBlock (r : Runtime) : Nat -> List Json -> Build (List Stmt)
  | 0, _ => throw .tooDeep
  | n + 1, stmts => do
    let out <- stmts.mapM (renderStmt r n)
    pure (if out.isEmpty then [.pass] else out)

/-- Renders one statement of a function body. -/
def renderStmt (r : Runtime) : Nat -> Json -> Build Stmt
  | 0, _ => throw .tooDeep
  | n + 1, j => do
    let fields := match j with
      | .obj fs => fs
      | _ => []
    let get? (k : String) : Option Json := (fields.find? (·.1 == k)).map (·.2)
    let block (k : String) : Build (List Stmt) := match get? k with
      | some (.arr items) => renderBlock r n items
      | _ => renderBlock r n []
    let namedOr (dflt : String) : Build String := do
      let v := match get? "as" with
        | some j => textOf j
        | none => dflt
      if !goodIdentifier v then throw (.unsupported ("bad identifier " ++ v))
      pure v
    if let some x := get? "task" then return .expr (<- renderExpr r n x)
    if let some x := get? "var" then
      let name := textOf x
      if !goodIdentifier name then throw (.unsupported ("bad identifier " ++ name))
      return .assign [.name name] (<- renderExpr r n ((get? "value").getD .null))
    if (get? "parallel").isSome then
      return .withBlock (.call (.name "parallel") [] []) none (<- block "parallel")
    if let some x := get? "parallel_branches" then
      let v <- namedOr "p"
      let branches <- match x with
        | .arr bs => bs.mapM fun b => do
          let bfields := match b with
            | .obj fs => fs
            | _ => []
          let arg <- match bfields.find? (·.1 == "arg") with
            | some (_, a) => renderExpr r n a
            | none => pure (.name v)
          let body <- match bfields.find? (·.1 == "body") with
            | some (_, .arr items) => renderBlock r n items
            | _ => renderBlock r n []
          pure (Stmt.withBlock (.call (.name "branch") [arg] []) none body)
        | _ => pure []
      return .withBlock (.call (.name "parallel") [] []) (some v)
        (if branches.isEmpty then [.pass] else branches)
    if let some x := get? "decision" then
      let v <- namedOr "d"
      let ctx <- renderExpr r n x
      let branches <- match get? "branches" with
        | some (.arr bs) => bs.mapM fun b => do
          let bfields := match b with
            | .obj fs => fs
            | _ => []
          let bget? (k : String) : Option Json := (bfields.find? (·.1 == k)).map (·.2)
          let bblock (k : String) : Build (List Stmt) := match bget? k with
            | some (.arr items) => renderBlock r n items
            | _ => pure []
          if (bget? "ok").isSome then
            pure (Stmt.ifThen (.attr (.name v) "ok") (<- renderBlock r n (match bget? "ok" with
              | some (.arr items) => items
              | _ => [])) (<- bblock "else"))
          else if let some code := bget? "exit_code" then
            pure (Stmt.ifThen (.compare .eq (.attr (.name v) "exit_code") (<- renderExpr r n code))
              (<- renderBlock r n (match bget? "body" with
                | some (.arr items) => items
                | _ => [])) (<- bblock "else"))
          else if let some t := bget? "task" then
            pure (Stmt.expr (<- renderExpr r n t))
          else throw (.unsupported "decision branch needs ok, exit_code or task")
        | _ => pure []
      return .withBlock ctx (some v) (if branches.isEmpty then [.pass] else branches)
    if let some x := get? "loop" then
      return .withBlock (<- renderExpr r n x) none (<- block "body")
    if let some x := get? "with" then
      return .withBlock (<- renderExpr r n x) none (<- block "body")
    if (get? "pass").isSome then return .pass
    throw (.unsupported ("unknown statement " ++ keysRepr fields))

/-- Evaluates a `$action` or `$runbook` form: the function is defined, its defaults evaluated,
    and the decorator applied. -/
def evalFunction (r : Runtime) (n : Nat) (decorator : Decorator) (x : Json) : Build Value := do
  let fields := match x with
    | .obj fs => fs
    | _ => []
  let get? (k : String) : Option Json := (fields.find? (·.1 == k)).map (·.2)
  let funcName := textOf ((get? "func").getD .null)
  if !goodIdentifier funcName then throw (.unsupported ("bad identifier " ++ funcName))
  let mut params : Array Param := #[]
  match get? "params" with
  | some (.arr ps) =>
    for p in ps do
      match p with
      | .arr [pn, pv] =>
        let pname := textOf pn
        if !goodIdentifier pname then throw (.unsupported ("bad identifier " ++ pname))
        params := params.push { name := pname, default := some (<- renderExpr r n pv) }
      | _ => throw (.unsupported "bad parameter")
  | _ => pure ()
  if let some (.str dn) := get? "name" then
    params := params.push { name := "name", default := some (.lit (.str dn)) }
  let doc := match get? "doc" with
    | some (.str d) => some d
    | _ => none
  let body <- match get? "body" with
    | some (.arr items) => renderBlock r n items
    | _ => renderBlock r n []
  let defn : FuncDef := { name := funcName, params := params.toList, doc, body }
  let mut defaults : Array (String × Value) := #[]
  for p in defn.params do
    match p.default with
    | some e => defaults := defaults.push (p.name, <- Flow.eval r [] e)
    | none => pure ()
  let plain := Value.function (.mk .plain defn defaults.toList [])
  let decoratorName := match decorator with
    | .runbook => "runbook"
    | _ => "action"
  r.call (.builtin [decoratorName]) [plain] []
end

def formFuel : Nat := 512

def evaluate (r : Runtime) (j : Json) : Build Value := evalForm r formFuel j

end Blueprints.Request
