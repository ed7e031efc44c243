import Blueprints.Api.Resource

namespace Blueprints.Api

open Http Library Library.Entities

/-- The secrets taken out of a payload. -/
structure Secrets where
  byName : List (Value × Value) := []
  byPath : List (List Value × Value) := []
deriving Inhabited

/-- A computation that takes secrets out of a payload. -/
abbrev Strip := StateT Secrets Build

/-- Records a secret under a name; a later one of the same name wins. -/
def keepNamed (name secret : Value) : Strip Unit :=
  modify fun s =>
    let byName := if s.byName.any (·.1.equal name) then
        s.byName.map fun (k, v) => if k.equal name then (k, secret) else (k, v)
      else s.byName ++ [(name, secret)]
    { s with byName }

def keepAt (path : List Value) (secret : Value) : Strip Unit :=
  modify fun s => { s with byPath := s.byPath ++ [(path, secret)] }

/-- The entries of a value that must be a dictionary. -/
def entriesOf (d : Value) (method : String) : Build (List (Value × Value)) :=
  match d with
  | .dict es => pure es
  | v => throw (v.noAttribute method)

/-- `d[key] = v`: the key keeps its place, or is added at the end. -/
def setKey (d : Value) (key : String) (v : Value) : Build Value := do
  match d with
  | .dict es => pure (.dict (dictPut es key v))
  | .list _ => throw (.wrongType "list indices must be integers or slices, not str")
  | v => throw v.noItemAssignment

/-- `d.pop(key)`: the value and the dictionary without it. -/
def pop (d : Value) (key : String) : Build (Value × Value) := do
  let es <- entriesOf d "pop"
  match dictGet? es key with
  | some v => pure (v, .dict (dictDrop es key))
  | none => throw (.missingKey (Text.quoted key))

def popOr (d : Value) (key : String) (dflt : Value) : Build (Value × Value) := do
  let es <- entriesOf d "pop"
  match dictGet? es key with
  | some v => pure (v, .dict (dictDrop es key))
  | none => pure (dflt, d)

/-- `d.get(key, {}) or {}`, with whether the result is the dictionary's own value, which
    changes to it should be written back to. -/
def childOf (d : Value) (key : String) : Build (Value × Bool) := do
  let v <- getOr d key emptyDict
  pure (if v.truthy then (v, true) else (emptyDict, false))

/-- The marker of a secret that was not modified. -/
def unmodified : Value :=
  dictOf [("attrs", dictOf [("is_secret_modified", .bool false), ("secret_reference", .none)])]

/-- The attributes of a secret variable that was not modified. -/
def unmodifiedAttrs : Value :=
  dictOf [("is_secret_modified", .bool false), ("secret_reference", .none)]

/-- The items of a list at a key, read as `d.get(key, []) or []`, and how to put changed items
    back. -/
def itemsAt (d : Value) (key : String) : Build (List Value) := do
  let v <- getOr d key (.list [])
  if !v.truthy then return []
  iterate v

/-- Writes changed items back into the list at a key, when that list is the dictionary's own. -/
def putItems (d : Value) (key : String) (items : List Value) : Build Value := do
  match <- getOr d key (.list []) with
  | .list (_ :: _) => setKey d key (.list items)
  | _ => pure d

/-- Takes out the values of the secret variables of the list `field` of an object. -/
def stripVariables (path : List Value) (obj : Value) (field : String := "variable_list") :
    Strip Value := do
  let mut out : List Value := []
  for (var, i) in (<- itemsAt obj field).zipIdx do
    if (<- at! var "type").equal (.str "SECRET") then
      let (value, rest) <- pop var "value"
      keepAt (path ++ [.str field, .int i]) value
      out := out ++ [<- setKey rest "attrs" unmodifiedAttrs]
    else out := out ++ [var]
  putItems obj field out

/-- Takes out the password of a basic authentication of a runbook's task, recorded under the
    path of its `basic_auth.password`. -/
def stripAuthentication (path : List Value) (obj : Value) : Strip Value := do
  let auth <- getOr obj "authentication" emptyDict
  if !(<- getOr auth "auth_type" .none).equal (.str "basic") then return obj
  let (value, password) <- pop (<- at! auth "password") "value"
  let _ := password
  keepAt (path ++ [.str "authentication", .str "basic_auth", .str "password"]) value
  let auth <- setKey auth "password" (dictOf [("is_secret_modified", .bool false)] |> fun a =>
    dictOf [("attrs", a)])
  setKey obj "authentication" auth

/-- The attributes of a task, read as `task.get("attrs", {}) or {}`. -/
def attrsOf (task : Value) : Build (Value × Bool) := childOf task "attrs"

/-- Takes out the secrets of the HTTP tasks of an action's runbook. -/
def stripActionTasks (path : List Value) (runbook : Value) : Strip Value := do
  let tasks <- getOr runbook "task_definition_list" (.list [])
  let mut out : List Value := []
  for (task, i) in (<- iterate tasks).zipIdx do
    if !(<- getOr task "type" .none).equal (.str "HTTP") then
      out := out ++ [task]
      continue
    let (attrs, own) <- attrsOf task
    let (auth, ownAuth) <- childOf attrs "authentication"
    if !(<- getOr auth "auth_type" .none).equal (.str "basic") then
      out := out ++ [task]
      continue
    let taskPath := path ++ [.str "task_definition_list", .int i, .str "attrs"]
    let basic <- at! auth "basic_auth"
    let (value, _) <- pop (<- at! basic "password") "value"
    keepAt (taskPath ++ [.str "authentication", .str "basic_auth", .str "password"]) value
    let basic <- setKey basic "password" unmodified
    let auth <- setKey auth "basic_auth" basic
    let mut attrs <- if ownAuth then setKey attrs "authentication" auth else pure attrs
    let mut task <- if own then setKey task "attrs" attrs else pure task
    let headers <- getOr attrs "headers" (.list [])
    if headers.truthy then
      attrs <- stripVariables taskPath (<- at! task "attrs") "headers"
      task <- setKey task "attrs" attrs
    out := out ++ [task]
  putItems runbook "task_definition_list" out

/-- Takes out the secret variables of an object's actions and of their runbooks' tasks. The
    actions after one without a runbook are left as they are. -/
def stripActions (path : List Value) (obj : Value) : Strip Value := do
  let mut out : List Value := []
  let actions <- itemsAt obj "action_list"
  let mut stopped := false
  for (action, i) in actions.zipIdx do
    if stopped then
      out := out ++ [action]
      continue
    let (runbook, own) <- childOf action "runbook"
    if !runbook.truthy then
      stopped := true
      out := out ++ [action]
      continue
    let rbPath := path ++ [.str "action_list", .int i, .str "runbook"]
    let runbook <- stripVariables rbPath runbook
    let runbook <- stripActionTasks rbPath runbook
    out := out ++ [<- if own then setKey action "runbook" runbook else pure action]
  putItems obj "action_list" out

/-- Takes out the secrets of a runbook's HTTP tasks. The path grows with each HTTP task. -/
def stripRunbookTasks (path : List Value) (obj : Value) : Strip Value := do
  let tasks <- getOr obj "task_definition_list" (.list [])
  let mut out : List Value := []
  let mut path := path
  for (task, i) in (<- iterate tasks).zipIdx do
    if !(<- getOr task "type" .none).equal (.str "HTTP") then
      out := out ++ [task]
      continue
    let (attrs, own) <- attrsOf task
    let (auth, _) <- childOf attrs "authentication"
    path := path ++ [.str "runbook", .str "task_definition_list", .int i, .str "attrs"]
    let mut attrs <- stripAuthentication path attrs
    let mut task <- if own then setKey task "attrs" attrs else pure task
    if (<- getOr auth "auth_type" .none).equal (.str "basic") then
      let headers <- getOr attrs "headers" (.list [])
      if headers.truthy then
        attrs <- stripVariables path (<- at! task "attrs") "headers"
        task <- setKey task "attrs" attrs
    out := out ++ [task]
  putItems obj "task_definition_list" out

/-- Takes out every kind of secret variable of an object. -/
def stripObject (path : List Value) (obj : Value) : Strip Value := do
  let obj <- stripVariables path obj
  let obj <- stripActions path obj
  let obj <- stripRunbookTasks path obj
  stripAuthentication path obj

/-- Takes the secrets out of the resources of a payload: credentials, a basic authentication,
    the objects of the listed lists and the listed objects. -/
def strip (resources : Value) (objectLists objects : List String := []) : Strip Value := do
  let mut res := resources
  let mut creds : List Value := []
  for cred in <- itemsAt res "credential_definition_list" do
    let name <- at! cred "name"
    let (secret, rest) <- popOr cred "secret" emptyDict
    keepNamed name secret
    creds := creds ++ [<- setKey rest "secret" unmodified]
  res <- putItems res "credential_definition_list" creds
  let (auth, own) <- childOf res "authentication"
  if (<- getOr auth "type" .none).equal (.str "basic") then
    let name <- at! auth "username"
    let (secret, rest) <- popOr auth "password" emptyDict
    keepNamed name secret
    let auth <- setKey rest "password"
      (dictOf [("attrs", dictOf [("is_secret_modified", .bool false), ("value", .none)])])
    if own then res <- setKey res "authentication" auth
  for listName in objectLists do
    let mut items : List Value := []
    for (obj, i) in (<- itemsAt res listName).zipIdx do
      items := items ++ [<- stripObject [.str listName, .int i] obj]
    res <- putItems res listName items
  for name in objects do
    let obj <- getOr res name emptyDict
    let obj' <- stripObject [.str name] obj
    if (dictGet? (<- entriesOf res "get") name).isSome then res <- setKey res name obj'
  pure res

/-- Changes the value at a path of keys and positions. -/
def modifyAt (v : Value) (path : List Value) (f : Value -> Build Value) : Build Value :=
  match path with
  | [] => f v
  | k :: rest => do
    let child <- subscript v k
    let child <- modifyAt child rest f
    match v, k with
    | .dict es, _ =>
      pure (.dict (if es.any (·.1.equal k) then
        es.map fun (k', x) => if k'.equal k then (k', child) else (k', x)
        else es ++ [(k, child)]))
    | .list items, .int i =>
      let n : Int := items.length
      let j := if i < 0 then i + n else i
      pure (.list (items.set j.toNat child))
    | _, _ => pure v

/-- Puts secrets back into resources that the server answered. -/
def patch (resources : Value) (secrets : Secrets) : Build Value := do
  let mut res := resources
  let credsValue <- getOr res "credential_definition_list" .none
  let mut creds : List Value := []
  for cred in <- iterate (if credsValue.isNone then .list [] else credsValue) do
    let name <- at! cred "name"
    let some secret := (secrets.byName.find? (·.1.equal name)).map (·.2)
      | throw (.missingKey name.repr)
    creds := creds ++ [<- setKey cred "secret" secret]
  if let .list _ := credsValue then res <- setKey res "credential_definition_list" (.list creds)
  let auth <- getOr res "authentication" emptyDict
  let username <- getOr auth "username" (.str "")
  if username.truthy then
    let some secret := (secrets.byName.find? (·.1.equal username)).map (·.2)
      | throw (.missingKey username.repr)
    res <- setKey res "authentication" (<- setKey auth "password" secret)
  for (path, secret) in secrets.byPath do
    res <- modifyAt res path fun var => do
      let var <- setKey var "attrs" (dictOf [("is_secret_modified", .bool true)])
      setKey var "value" secret
  pure res

end Blueprints.Api
