import Blueprints.Library.Entities
import Blueprints.Value.Operators
import Blueprints.Text.Identifier
import Blueprints.Json.Parse

namespace Blueprints.Decompile

open Library Build Entity

/-- A valid identifier made from a value: a false value is kept, a text is made an identifier. -/
def identifierOf (data : Value) : Build Value :=
  if !data.truthy then pure data
  else match data with
    | .str s => pure (.str (Text.validIdentifier s))
    | v => throw (v.noAttribute "isidentifier")

/-- The entry of the display-name map at a context, if the map has one there. -/
def metadataAt (context : List String) : Build (Option Json) := do
  let mut m := (<- get).displayMap
  for c in context do
    match m with
    | .obj fields =>
      match fields.find? (·.1 == c) with
      | some (_, inner) => m := inner
      | none => return none
    | _ => return none
  pure (some m)

/-- The entries of a payload, which must be a dictionary. -/
def entriesOf (v : Value) (method : String) : Build (List (Value × Value)) :=
  match v with
  | .dict entries => pure entries
  | .record _ fields => pure (fields.map fun (k, x) => (.str k, x))
  | v => throw (v.noAttribute method)

/-- Whether a payload entry is kept: absent values and empty texts are left out. -/
def isKept (v : Value) : Bool := !(v.isNone || v.isText "")

/-- The kinds whose class names take the prefix given for reading a blueprint. -/
def prefixedKinds : List Kind :=
  [.deployment, .ahvVmResources, .ahvVm, .package, .profile, .service, .substrate, .task]

/-- The message for reading back an entity of a pod deployment. -/
def podRefusal : String := "Decompilation support for pod deployments is not available."

/-- Prepares a payload for reading: the class name (from the display-name map, else the
    payload's name, made an identifier) and documentation are added as `__name__` and
    `__doc__`, empty entries are dropped, and each kind adjusts what it needs. -/
def prepare (k : Kind) (entries : List (Value × Value)) (context : List String)
    (pre : String) : Build (List (Value × Value)) := do
  let uiName := (dictGet? entries "name").getD .none
  let dslName := match <- metadataAt context with
    | some (.obj fields) =>
      match fields.find? (·.1 == "dsl_name") with
      | some (_, j) => .ofJson j
      | none => uiName
    | _ => uiName
  let dslName <- identifierOf dslName
  let mut cd := dictPut entries "__name__" dslName
  cd := dictPut cd "__doc__" ((dictGet? entries "description").getD (.str ""))
  cd := cd.filter fun (_, v) => isKept v
  if k == .runbook || k == .task then
    cd := dictDrop (dictDrop cd "state") "message_list"
  if prefixedKinds.contains k then
    if let some n := dictGet? cd "__name__" then
      cd := dictPut cd "__name__" (.str (pre ++ n.toText))
  if k == .profile then cd := dictDrop cd "environment_reference_list"
  if k == .ref then cd := dictPut cd "__name__" .none
  if k == .substrate then
    let some spec := dictGet? cd "create_spec" | throw (.missingKey "'create_spec'")
    cd := dictPut cd "create_spec" (Entities.providerSpec spec)
  pure cd

/-- The message refusing a class name that is reserved. -/
def reservedMessage (name what : String) : String :=
  "'" ++ name ++ "' is a reserved " ++ what ++
    ". Please use '--prefix/-p' cli option to provide prefix for entity's name."

def itemOf (obj : Value) (key : String) : Build Value := subscript obj (.str key)

mutual
/-- Reads a class of kind `k` back from its payload, at a context, with a name prefix. -/
def classOf : Nat -> Runtime -> Kind -> Value -> List String -> String -> Build Entity
  | 0, _, _, _, _, _ => throw .tooDeep
  | fuel + 1, r, k, cdict, context, pre => do
    match k with
    | .ahvVmResources =>
      let entries <- entriesOf cdict "pop"
      let ports := (dictGet? entries "serial_port_list").getD (.list [])
      let mut portMap : List (Value × Value) := []
      for port in <- iterate ports do
        let index <- itemOf port "index"
        let connected <- itemOf port "is_connected"
        portMap := if portMap.any (·.1.equal index) then
            portMap.map fun (i, c) => if i.equal index then (i, connected) else (i, c)
          else portMap ++ [(index, connected)]
      let mut entries := dictPut (dictDrop entries "serial_port_list") "serial_port_list"
        (.dict portMap)
      if !((dictGet? entries "guest_customization").getD .none).truthy then
        entries := dictDrop entries "guest_customization"
      generic fuel r k (.dict entries) [] pre
    | .deployment =>
      if (<- itemOf cdict "type").isText "K8S_DEPLOYMENT" then exitWith podRefusal
      generic fuel r k cdict context pre
    | .package => packageOf fuel r cdict context pre
    | .vmDiskPackage => diskPackageOf cdict pre
    | .substrate =>
      if (<- itemOf cdict "type").isText "K8S_POD" then exitWith podRefusal
      let cls <- generic fuel r k cdict context pre
      let spec <- r.attr (.entity cls) "provider_spec"
      if (<- r.attr (.entity cls) "provider_type").isText "AHV_VM" then
        let context := ["Substrate", displayName cls]
        let vm <- classOf fuel r .ahvVm spec context pre
        cls.set "provider_spec" (.entity vm)
      else pure cls
    | .task => taskOf fuel r cdict context pre
    | _ => generic fuel r k cdict context pre

/-- Reads a class back the way every kind does: attributes under their names, nested entities
    read back as classes, and the class made under its name. -/
def generic : Nat -> Runtime -> Kind -> Value -> List String -> String -> Build Entity
  | 0, _, _, _, _, _ => throw .tooDeep
  | fuel + 1, r, k, cdict, context, pre => do
    let entries <- entriesOf cdict "get"
    let uiName := (dictGet? entries "name").getD .none
    let schema := k.schemaName
    let context := if k == .deployment then [schema, uiName.toText]
      else if uiName.truthy && schema != "Blueprint" then context ++ [schema, uiName.toText]
      else context
    let cd <- prepare k entries context pre
    let specs <- kindSpecs k
    let mut dunders : List (String × Value) := []
    let mut user : List (String × Value) := []
    for (key, v) in cd do
      let name := key.toText
      if name.startsWith "__" && name.endsWith "__" then
        if !dunders.any (·.1 == name) then dunders := dunders ++ [(name, v)]
      else match specs.find? (·.apiName == name) with
        | none => logWarning ("Additional Property (" ++ name ++ ") found")
        | some spec =>
          if !user.any (·.1 == spec.name) then user := user ++ [(spec.name, v)]
    let mut attrs : List (String × Value) := []
    for (name, v) in user do
      let some spec := specs.find? (·.name == name) | continue
      let v' <- match spec.check with
        | .entity k' =>
          if k' == .providerSpec then pure v
          else if spec.isArray then do
            let mut out : List Value := []
            for item in <- iterate v do
              out := out ++ [.entity (<- classOf fuel r k' item context pre)]
            pure (Value.list out)
          else do pure (Value.entity (<- classOf fuel r k' v context pre))
        | .group shape =>
          if spec.isArray then do
            let mut out : List Value := []
            for item in <- iterate v do
              out := out ++ [<- groupOf fuel r shape item pre]
            pure (Value.list out)
          else groupOf fuel r shape v pre
        | _ => pure v
      let _ <- assignChecked classFuel (some k) specs name v'
      attrs := attrs ++ [(name, v')]
    let name := match dunders.find? (·.1 == "__name__") with
      | some (_, n) => n
      | none => uiName
    if k != .task && k != .credential then
      if name.isText schema then exitWith (reservedMessage schema "name for this entity")
      if let .str n := name then
        if Text.keywords.contains n then exitWith (reservedMessage n "python keyword")
    let doc := (dunders.find? (·.1 == "__doc__")).map (·.2.toText)
    createNamed k name [] doc attrs

/-- Reads an attribute group back: its entries under their names, nested entities read back
    as classes. An empty group is kept as it is. -/
def groupOf : Nat -> Runtime -> Schema -> Value -> String -> Build Value
  | 0, _, _, _, _ => throw .tooDeep
  | fuel + 1, r, shape, v, pre => do
    if !v.truthy then return v
    let entries <- entriesOf v "items"
    let specs <- shapeSpecs shape
    let mut attrs : List (Value × Value) := []
    for (key, x) in entries.filter (fun (_, x) => isKept x) do
      let name := key.toText
      match specs.find? (·.apiName == name) with
      | none => logWarning ("Additional Property (" ++ name ++ ") found")
      | some spec =>
        if attrs.any (·.1.isText spec.name) then continue
        let x' <- match spec.check with
          | .entity k' =>
            if spec.isArray then do
              let mut out : List Value := []
              for item in <- iterate x do
                out := out ++ [.entity (<- classOf fuel r k' item [] pre)]
              pure (Value.list out)
            else do pure (Value.entity (<- classOf fuel r k' x [] pre))
          | .group inner =>
            if spec.isArray then do
              let mut out : List Value := []
              for item in <- iterate x do
                out := out ++ [<- groupOf fuel r inner item pre]
              pure (Value.list out)
            else groupOf fuel r inner x pre
          | _ => pure x
        attrs := attrs ++ [(.str spec.name, x')]
    pure (.dict attrs)

/-- Reads a task back: the references among its attributes become reference classes first. -/
def taskOf : Nat -> Runtime -> Value -> List String -> String -> Build Entity
  | 0, _, _, _, _ => throw .tooDeep
  | fuel + 1, r, cdict, context, pre => do
    let entries <- entriesOf cdict "get"
    let given := (dictGet? entries "attrs").getD .none
    let mut attrs <- if given.truthy then entriesOf given "get" else pure []
    if let some cred := dictGet? attrs "login_credential_local_reference" then
      if cred.truthy then
        attrs := dictPut attrs "login_credential_local_reference"
          (.entity (<- classOf fuel r .ref cred [] pre))
    let taskType := (dictGet? entries "type").getD .none
    if taskType.isText "DAG" then
      let edges := (dictGet? attrs "edges").getD .none
      let mut final : List Value := []
      for edge in <- (if edges.truthy then iterate edges else pure []) do
        let source <- classOf fuel r .ref (<- itemOf edge "from_task_reference") [] pre
        let target <- classOf fuel r .ref (<- itemOf edge "to_task_reference") [] pre
        final := final ++ [textDict [("from_task_reference", .entity source),
          ("to_task_reference", .entity target)]]
      if !final.isEmpty then attrs := dictPut attrs "edges" (.list final)
    else if taskType.isText "CALL_RUNBOOK" then
      let runbook <- itemOf (.dict attrs) "runbook_reference"
      attrs := dictPut attrs "runbook_reference" (.entity (<- classOf fuel r .ref runbook [] pre))
    else if taskType.isText "CALL_CONFIG" then
      let config <- itemOf (.dict attrs) "config_spec_reference"
      attrs := dictPut attrs "config_spec_reference" (<- itemOf config "name")
    else if taskType.isText "HTTP" then
      let auth := (dictGet? attrs "authentication").getD (.dict [])
      let authEntries <- entriesOf auth "get"
      if ((dictGet? authEntries "type").getD (.str "")).isText "basic_with_cred" then
        if let some cred := dictGet? authEntries "credential_local_reference" then
          if cred.truthy then
            let ref <- classOf fuel r .ref cred [] pre
            attrs := dictPut attrs "authentication"
              (.dict (dictPut authEntries "credential_local_reference" (.entity ref)))
    generic fuel r .task (.dict (dictPut entries "attrs" (.dict attrs))) context pre

/-- Reads a package back by its type: a custom package gets its install and uninstall runbooks
    as system actions when they hold more than their DAG task, an image package is read back as
    a downloadable image, and other types are refused. -/
def packageOf : Nat -> Runtime -> Value -> List String -> String -> Build Entity
  | 0, _, _, _, _ => throw .tooDeep
  | fuel + 1, r, cdict, context, pre => do
    let entries <- entriesOf cdict "get"
    let given := (dictGet? entries "type").getD .none
    let packageType := if given.truthy then given.toText else "CUSTOM"
    if packageType == "CUSTOM" || packageType == "DEB" then
      let cls <- generic fuel r .package cdict context pre
      let options <- r.attr (.entity cls) "options"
      let mut cls := cls.dropAttr "options"
      let optionData <- match options with
        | .none => pure Value.none
        | o => do pure (Value.dict ((<- entriesOf o "items").filter fun (_, x) => isKept x))
      for (key, actionName) in [("__install__", "action_install"),
          ("__uninstall__", "action_uninstall")] do
        let runbookKey := if key == "__install__" then "install_runbook" else "uninstall_runbook"
        let runbook <- itemOf optionData runbookKey
        let tasks <- iterate (<- itemOf runbook "task_definition_list")
        if tasks.length > 1 then
          let rb <- classOf fuel r .runbook runbook [] pre
          let action <- makeClass .action (.str actionName) [<- root .action]
            [("name", .str actionName), ("critical", .bool true), ("type", .str "system"),
             ("runbook", .entity rb)]
          cls := cls.setAttr key (.entity action)
      pure cls
    else if packageType == "SUBSTRATE_IMAGE" then
      let data := textDict [("name", <- itemOf cdict "name"),
        ("description", <- itemOf cdict "description"), ("options", <- itemOf cdict "options")]
      diskPackageOf data pre
    else if packageType == "K8S_IMAGE" then exitWith podRefusal
    else exitWith ("Un-supported package type " ++ packageType)

/-- Reads a downloadable image back from an image package's payload: its image, product and
    checksum sections come from the options' resources. -/
def diskPackageOf (cdict : Value) (pre : String) : Build Entity := do
  let entries <- entriesOf cdict "get"
  let orEmpty := fun (v : Option Value) => match v with
    | some x => if x.truthy then x else .str ""
    | none => .str ""
  let name := orEmpty (dictGet? entries "name")
  let description := orEmpty (dictGet? entries "description")
  let options <- itemOf cdict "options"
  let optionEntries <- entriesOf options "get"
  let resources := (dictGet? optionEntries "resources").getD (.dict [])
  let res <- entriesOf resources "get"
  let imageType <- itemOf resources "image_type"
  let get := fun (key : String) => (dictGet? res key).getD (.str "")
  let mut config : List (String × Value) := [("image", textDict [
    ("name", (dictGet? optionEntries "name").getD (.str "")), ("type", get "image_type"),
    ("source", get "source_uri"), ("architecture", get "architecture")])]
  if let some version := dictGet? res "version" then
    if version.truthy then
      let v <- entriesOf version "get"
      config := config ++ [("product", textDict [
        ("name", orEmpty (dictGet? v "product_name")),
        ("version", orEmpty (dictGet? v "product_version"))])]
  if imageType.isText "ISO_IMAGE" then
    if let some checksum := dictGet? res "checksum" then
      if checksum.truthy then
        let c <- entriesOf checksum "get"
        config := config ++ [("checksum", textDict [
          ("algorithm", orEmpty (dictGet? c "checksum_algorithm")),
          ("value", orEmpty (dictGet? c "checksum_value"))])]
  config := config ++ [("description", description), ("name", name)]
  let pkgName <- identifierOf (.str (pre ++ name.toText))
  if pkgName.isText "Package" then
    throw (.wrongType "Package is a reserved name for this entity")
  let cls <- createNamed .vmDiskPackage pkgName [] none config
  pure (mk cls.kind cls.name (some description.toText) cls.attrs cls.bases)
end

/-- The depth to which payloads are read back. -/
def readFuel : Nat := 64

/-- Reads a class of kind `k` back from its payload, with a name prefix. -/
def decompile (r : Runtime) (k : Kind) (cdict : Value) (pre : String := "") : Build Entity :=
  classOf readFuel r k cdict [] pre

/-- A JSON value read as a value of the language, each object that names an entity type under
    `__kind__` read back as a class of that type; inner objects are read first. -/
def fromTaggedJson (r : Runtime) : Nat -> Json -> Build Value
  | 0, _ => throw .tooDeep
  | fuel + 1, j =>
    match j with
    | .arr items => do
      let mut out : List Value := []
      for x in items.attach do
        out := out ++ [<- fromTaggedJson r fuel x.1]
      pure (.list out)
    | .obj fields => do
      let mut entries : List (Value × Value) := []
      for x in fields.attach do
        let v <- fromTaggedJson r fuel x.1.2
        entries := dictPut entries x.1.1 v
      match dictGet? entries "__kind__" with
      | none => pure (.dict entries)
      | some kindName =>
        match Kind.ofSchemaName? kindName.toText with
        | some k => do pure (.entity (<- decompile r k (.dict entries)))
        | none => throw (.wrongType ("Unknown entity type " ++ kindName.toText ++ " given"))
    | j => pure (.ofJson j)

/-- Reads JSON text, reading back as classes the objects that name an entity type. -/
def loadJson (r : Runtime) (data : Value) : Build Value := do
  let text <- match data with
    | .str s => pure s
    | v => throw (.wrongType ("the JSON object must be str, bytes or bytearray, not " ++
        v.typeName))
  match Json.parse text with
  | .ok j => fromTaggedJson r readFuel j
  | .error e => throw (.notJson (e.render text))

end Blueprints.Decompile
