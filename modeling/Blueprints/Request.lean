import Blueprints.Crypto.Seal
import Blueprints.Request.Expression
import Blueprints.Cli.Answer

namespace Blueprints.Request
open Text Api Json

/-- A field of the request, which must be present. -/
def field (req : Json) (key : String) : Build Json :=
  match req.get? key with
  | some v => pure v
  | none => throw (.missingKey (quoted key))

def hexField (req : Json) (key : String) : Build ByteArray := do
  match <- field req key with
  | .str s => match fromHex s with
    | .ok b => pure b
    | .error pos => throw (.badValue
        ("non-hexadecimal number found in fromhex() arg at position " ++ toString pos))
  | j => throw (.wrongType ("fromhex() argument must be str, not " ++ (Value.ofJson j).typeName))

def textField (req : Json) (key : String) (use : String) : Build String := do
  match <- field req key with
  | .str s => pure s
  | j => throw (.missingAttribute
      ("'" ++ (Value.ofJson j).typeName ++ "' object has no attribute '" ++ use ++ "'"))

/-- Seals a message under a password, or opens a sealed one. -/
def crypto (req : Json) : Build (List (String × Json)) := do
  match <- field req "mode" with
  | .str "encrypt" =>
    let msg <- textField req "msg" "encode"
    let password <- textField req "password" "encode"
    let salt <- hexField req "salt"
    let nonce <- hexField req "nonce"
    let s := Crypto.sealText msg password salt nonce
    pure [("salt", .str (toHex s.salt)), ("ciphertext", .str (toHex s.cipher)),
      ("nonce", .str (toHex s.nonce)), ("tag", .str (toHex s.tag))]
  | .str "decrypt" =>
    let salt <- hexField req "salt"
    let cipher <- hexField req "ciphertext"
    let nonce <- hexField req "nonce"
    let tag <- hexField req "tag"
    let password <- textField req "password" "encode"
    match Crypto.openSealed ⟨salt, cipher, nonce, tag⟩ password with
    | some text => pure [("value", .str text)]
    | none => throw (.badValue "MAC check failed")
  | m => throw (.unsupported ("unknown mode " ++ (Value.ofJson m).toText))

/-- Stops with a fault raised outside the session. -/
def liftFault {α : Type} : Except Fault α -> Build α
  | .ok a => pure a
  | .error f => throw f

def plainJson (v : Value) : Build Json := liftFault v.toJson

/-- Checks an entity's attributes given as a dictionary against its kind's schema. -/
def validateEntity (req : Json) : Build (List (String × Json)) := do
  let typeName := Value.toText (.ofJson (<- field req "type"))
  let some kind := Kind.ofSchemaName? typeName
    | throw (.unsupported ("unknown entity type " ++ typeName))
  let data <- field req "data"
  let props := match (Schema.Entities.table.lookup kind.schemaName) with
    | some s => if s.calmType == some "app_descriptor" || s.calmType == some "app_provider_spec"
        || s.calmType == some "app_calm_ref" then some [] else s.properties
    | none => some []
  let schema : Schema := { type := ["object"], properties := props }
  match Schema.validate Schema.Entities.table schema (.ofJson data) with
  | .ok v => pure [("valid", .bool true), ("data", <- plainJson v)]
  | .error e => throw (.invalid e)

/-- Reads a class back from its payload and compiles it again. -/
def roundtrip (req : Json) : Build (List (String × Json)) := do
  let r := Evaluator.runtime
  let typeName := Value.toText (.ofJson (<- field req "type"))
  let some kind := Kind.ofSchemaName? typeName
    | throw (.unsupported ("unknown entity type " ++ typeName))
  let cdict <- field req "cdict"
  let pre := match req.get? "prefix" with
    | some (.str p) => p
    | _ => ""
  let cls <- Decompile.decompile r kind (.ofJson cdict) pre
  pure [("name", .str cls.name), ("value", <- r.encode true [] (.entity cls))]

def providerSpec (req : Json) : Build (List (String × Json)) := do
  let typeName := Value.toText (.ofJson (<- field req "provider_type"))
  let some p := Provider.ofName? typeName | throw (.failure "provider not registered")
  let spec <- field req "spec"
  match p.validateSpec (.ofJson spec) with
  | .ok v => pure [("valid", .bool true), ("spec", <- plainJson v)]
  | .error e => throw (.invalid e)

/-- The layout of a class dumped as YAML: sequence items stand two in, their content four, and
    characters beyond ASCII are written as they are. -/
def classYamlLayout : Yaml.Layout :=
  { seqIndent := 4, dashOffset := 2, wide := true, literalLines := false }

/-- Evaluates the definitions and the expression of an `eval` request and writes the result as
    the output mode asks. -/
def evalOp (req : Json) : Build (List (String × Json)) := do
  let r := Evaluator.runtime
  match req.get? "defs" with
  | some (.arr defs) =>
    for d in defs do
      match d with
      | .arr [.str name, x] =>
        let v <- evaluate r x
        Build.bindGlobal name v
      | _ => throw (.badRequest "bad def")
  | _ => pure ()
  let v <- evaluate r (<- field req "expr")
  let mode := match req.get? "out" with
    | some (.str m) => m
    | _ => "json"
  match mode with
  | "json" => pure [("value", <- r.encode true [] v)]
  | "payload" =>
    match v with
    | .tuple [payload, err] =>
      let e <- r.encode true [] err
      let p <- r.encode true [] payload
      pure [("value", p), ("payload_error", e)]
    | _ => throw (.wrongType "cannot unpack non-iterable object")
  | "yaml" =>
    match v with
    | .entity _ => pure [("value", .str (Yaml.render classYamlLayout (<- r.encode false [] v)))]
    | other => throw (.missingAttribute ("'" ++ other.typeName ++
        "' object has no attribute 'yaml_dump'"))
  | "name" =>
    match v with
    | .entity e => pure [("value", .str e.name)]
    | other => pure [("value", <- r.encode true [] (<- r.attr other "__name__"))]
  | m => throw (.unsupported ("unknown out " ++ m))

/-- Binds the definitions of a request, in order. -/
def bindDefs (r : Runtime) (req : Json) : Build Unit := do
  match req.get? "defs" with
  | some (.arr defs) =>
    for d in defs do
      match d with
      | .arr [.str name, x] =>
        let v <- evaluate r x
        Build.bindGlobal name v
      | _ => throw (.badRequest "bad def")
  | _ => pure ()

/-- The payload of the blueprint that a `decompile_bp` request gives: as it is, or made by
    compiling the blueprint class that its expression evaluates to. -/
def blueprintPayload (r : Runtime) (req : Json) : Build Value := do
  if let some payload := req.get? "payload" then return .ofJson payload
  bindDefs r req
  let v <- evaluate r (<- field req "expr")
  let resources <- r.encode false [] v
  let displayMap := (<- get).displayMap
  let resources := resources.set "client_attrs" (.obj [("None", displayMap)])
  let (name, doc) := match v with
    | .entity e => (Json.str e.name, Json.str (e.doc.getD ""))
    | _ => (null, Json.str "")
  let metadata := match req.get? "metadata" with
    | some m => m
    | none => .obj [("kind", .str "blueprint")]
  let spec := obj [("name", name), ("description", doc), ("resources", resources)]
  let payload := [("spec", spec)] ++ (if metadata == .null then [] else [("metadata", metadata)])
  modify fun s => { s with idCount := 0, displayMap := ({} : Session).displayMap }
  pure (.ofJson (.obj payload))

/-- Writes a blueprint payload back as a source file, with the files beside it. -/
def decompileBlueprint (req : Json) : Build (List (String × Json)) := do
  let r := Evaluator.runtime
  let payload <- blueprintPayload r req
  let spec <- subscript payload (.str "spec")
  let resources <- subscript spec (.str "resources")
  let metadata <- match payload with
    | .dict es => pure ((Library.dictGet? es "metadata").getD .none)
    | _ => pure .none
  let metaClass <- if metadata.isNone then pure none else do
    let es := match metadata with
      | .dict es => Library.dictDrop (Library.dictDrop es "creation_time") "last_update_time"
      | _ => []
    some <$> Decompile.decompile r .metadata (.dict es)
  let clientAttrs <- match resources with
    | .dict es => pure ((Library.dictGet? es "client_attrs").getD (.dict []))
    | _ => pure (.dict [])
  let loaded <- match clientAttrs with
    | .dict es => pure ((Library.dictGet? es "None").getD (.dict []))
    | _ => pure (.dict [])
  if loaded.truthy then
    modify fun s => { s with displayMap := (plainOf loaded) }
  let pre <- Decompile.identifierOf (match req.get? "prefix" with
    | some (.str p) => .str p
    | _ => .str "")
  let cls <- Decompile.decompile r .blueprint resources pre.toText
  let specEntries := match spec with
    | .dict es => es
    | _ => []
  let name <- Decompile.identifierOf ((Library.dictGet? specEntries "name").getD
    (.str "DslBlueprint"))
  let doc := (Library.dictGet? specEntries "description").getD (.str "")
  let cls := Entity.mk cls.kind name.toText (some doc.toText) cls.attrs cls.bases
  let (text, written) <- (Source.blueprintFile r cls metaClass).run {}
  let files := written.files.map fun (path, content) => (path, Json.str content)
  pure [("source", .str text), ("files", .obj files)]
where
  plainOf (v : Value) : Json :=
    match v.toJson with
    | .ok j => j
    | .error _ => .obj []

/-- Starts a runbook project: its files by path. -/
def initRunbook (req : Json) : Build (List (String × Json)) := do
  let given <- textField req "name" "strip"
  let name <- Starter.projectName given
  let files <- Starter.runbookFiles name
  pure [("files", .obj (files.map fun (p, t) => (p, .str t)))]

/-- Starts a blueprint project: the source of its blueprint file. -/
def initBlueprint (req : Json) : Build (List (String × Json)) := do
  let name := (Value.ofJson (<- field req "name")).toText
  let provider := (Value.ofJson (<- field req "provider_type")).toText
  pure [("source", .str (<- Starter.blueprintSource name provider))]

/-- A response as answers show it: its JSON body or its text, with its status. -/
def responseJson (r : Http.Response) : Json :=
  match r.json? with
  | some j => .obj [("json", j), ("status_code", .int r.status)]
  | none => .obj [("status_code", .int r.status), ("text", .str r.text)]

/-- What an operation of the client answered, as JSON. -/
def answerOf : Api.Answer -> Build Json
  | .outcome o => do
    let err <- match o.error with
      | some e => plainJson e
      | none => pure .null
    pure (.arr [(o.response.map responseJson).getD .null, err])
  | .value v => plainJson v

/-- The path of the server's version, which the client reads when its version is set. -/
def serverVersionPath : String := "PrismGateway/services/rest/v1/cluster/version"

/-- Sets up the server, the working directory and the version that a request names. When a
    version is named, the server's own version is read as a new client does; the fixed world
    answers it unless a route of the request does. -/
def setUpServer (req : Json) : Build Unit := do
  let routes := match req.get? "server" with
    | some (.arr rs) => rs
    | _ => []
  let files := match req.get? "files" with
    | some (.obj fs) => fs.filterMap fun (k, v) => v.str?.map (k, ·)
    | _ => []
  modify fun s => { s with server := Http.Server.ofJson routes, files }
  if let some (.str version) := req.get? "calm_version" then
    modify fun s => { s with version }
    let probe : Http.Request := { method := .get, path := serverVersionPath }
    if ((<- get).server.find? probe).isSome then
      let _ <- Http.Call.send { method := .get, endpoint := serverVersionPath, ignoreError := true,
                                warning := "Could not get PC Version" }
    modify fun s => { s with sent := #[] }

/-- Calls an operation of the client or of a provider's object. -/
def apiCall (req : Json) : Build (List (String × Json)) := do
  setUpServer req
  let method <- match <- field req "method" with
    | .str m => pure m
    | j => pure (render .compact j)
  let args := match req.get? "args" with
    | some (.arr xs) => xs.map .ofJson
    | _ => []
  let kwargs := match req.get? "kwargs" with
    | some (.obj fs) => fs.map fun (k, v) => (k, .ofJson v)
    | _ => []
  let answer <- match req.get? "resource", req.get? "provider" with
    | some (.str r), _ => invoke r method args kwargs
    | _, some (.str p) => invokeProvider p method args kwargs
    | _, _ => throw (.unsupported "api needs a resource or a provider")
  let value <- answerOf answer
  let requests := (<- get).sent.toList.map Http.Request.record
  pure [("requests", .arr requests), ("value", value)]

def dispatch (op : String) (req : Json) : Build (List (String × Json)) := do
  match op with
  | "identifier" =>
    let data <- field req "data"
    let v <- Decompile.identifierOf (.ofJson data)
    match v with
    | .str s => pure [("value", .str s)]
    | _ => pure [("value", data)]
  | "crypto" => crypto req
  | "validate" => validateEntity req
  | "provider_spec" => providerSpec req
  | "eval" => evalOp req
  | "roundtrip" => roundtrip req
  | "decompile_bp" => decompileBlueprint req
  | "init_runbook" => initRunbook req
  | "init_bp" => initBlueprint req
  | "api" => apiCall req
  | _ => throw (.badRequest ("unknown op " ++ op))

/-- The text of the `op` field as a name: a missing field reads `None`. -/
def opName (req : Json) : String :=
  match req.get? "op" with
  | some (.str s) => s
  | some .null | none => "None"
  | some j => render .compact j

/-- The answer to a request given as a JSON value. -/
def answerJson (req : Json) : Json :=
  match req with
  | .obj _ =>
    let project := match req.get? "project" with
      | some (.str p) => p
      | _ => "default"
    let op := opName req
    if op == "cli" then Cli.answer req else
    if op == "cli_seq" then Cli.answerSequence req else
    let (result, session) := (dispatch op req).run.run { project }
    -- the commands of the client log every level, each line named by its level
    let errors := if op == "api" then
        session.log.toList.map fun (level, msg) => Json.str (level.name ++ ": " ++ msg)
      else session.log.toList.filterMap fun (level, msg) =>
        if level == .error then some (Json.str msg) else none
    let logField := if errors.isEmpty then [] else [("log", arr errors)]
    let outField := if session.output.isEmpty then [] else [("stdout", Json.str session.output)]
    match result with
    | .ok fields => .obj (fields ++ logField ++ outField)
    | .error f => .obj ([("error", .str f.kind), ("message", .str f.message)] ++ logField ++ outField)
  | _ => .obj [("error", .str "BadRequest"), ("message", .str "request is not an object")]

/-- The answer to one line of input, as one line of text. -/
def answerLine (line : String) : String :=
  match parse line with
  | .ok req => render .sorted (answerJson req)
  | .error _ => render .sorted
      (.obj [("error", .str "BadRequest"), ("message", .str "invalid json")])

end Blueprints.Request
