import Blueprints.Script.Run
import Blueprints.Evaluator
import Blueprints.Cli.Invoke

namespace Blueprints.Cli

open Library Build Text Json

/-- The text of a parameter's value, or nothing when it has none. -/
def textValue? (values : ParamValues) (key : String) : Option String :=
  match values.find? (·.1 == key) with
  | some (_, .str s) => some s
  | _ => none

/-- The text of a parameter's value, or the empty text. -/
def textValue (values : ParamValues) (key : String) : String :=
  (textValue? values key).getD ""

/-- The texts given to an option that may be given several times. -/
def textsValue (values : ParamValues) (key : String) : List String :=
  match values.lookup key with
  | some (.tuple xs) | some (.list xs) => xs.map Value.toText
  | _ => []

def flagValue (values : ParamValues) (key : String) : Bool :=
  match values.find? (·.1 == key) with
  | some (_, v) => v.truthy
  | none => false

/-- Runs a file of the working directory and gives the names it bound, sorted. -/
def loadFile (r : Runtime) (path : String) : Build (List (String × Value)) := do
  let text <- Files.readAt (absolutePath path)
    (.system "FileNotFoundError" ("[Errno 2] No such file or directory: " ++ quoted path))
  Script.runFile r path text
  pure ((<- get).globals.mergeSort fun a b => decide (a.1 ≤ b.1))

/-- Whether a value is a class derived directly from the root class of one of the kinds. -/
def derivesFromRoot (kinds : List Kind) (v : Value) : Bool :=
  match v with
  | .entity e =>
    match e.bases.head? with
    | some b => kinds.any fun k => b.name == rootName k && b.bases.isEmpty
    | none => false
  | _ => false

/-- The last of the sorted names whose value passes a test. -/
def lastWhere (names : List (String × Value)) (p : Value -> Bool) : Option Value :=
  (names.filter (p ·.2)).getLast?.map (·.2)

/-- The metadata a file defines, as data: those of its last class derived from the metadata
    root, or none. They are kept in the session for what the file compiles next. -/
def metadataOf (r : Runtime) (path : String) : Build Json := do
  let names <- loadFile r path
  let payload <- match lastWhere names (derivesFromRoot [.metadata]) with
    | some v => r.encode false [] v
    | none => pure (.obj [])
  modify fun s => { s with metadata := payload }
  pure payload

/-- Writes a payload as JSON indented by four, or as YAML. -/
def writePayload (out : String) (payload : Json) : Build Unit := do
  if out == "json" then print (render (.pretty 4) payload ++ "\n")
  else if out == "yaml" then print (Yaml.render {} payload ++ "\n")
  else logError ("Unknown output format " ++ out ++ " given")

/-- Empties the secrets of the credentials of a payload; whether there were any. -/
def hideSecrets (payload : Json) : Json × Bool :=
  let resources := (payload.getD "spec").getD "resources"
  match resources.getD "credential_definition_list" with
  | .arr creds =>
    let (creds, hidden) := creds.foldl (fun (acc : List Json × Bool) cred =>
      let secret := cred.getD "secret"
      match secret.get? "secret" with
      | some s =>
        if s == .null || s == .str "" || s == .obj [] || s == .arr [] || s == .bool false ||
            s == .int 0 then (acc.1 ++ [cred], acc.2)
        else
          let secret := (secret.erase "secret").set "value" (.str "")
          (acc.1 ++ [cred.set "secret" secret], true)
      | none => (acc.1 ++ [cred], acc.2)) ([], false)
    let resources := resources.set "credential_definition_list" (.arr creds)
    (payload.set "spec" ((payload.getD "spec").set "resources" resources), hidden)
  | _ => (payload, false)

/-- A blueprint whose deployments are replaced by the brownfield deployments of the same class
    name. A brownfield deployment takes the packages and the substrate of the deployment it
    replaces, and its display name when it has none of its own. -/
def withBrownfield (r : Runtime) (bp : Entity) (brownfield : List (String × Entity)) :
    Build Entity := do
  let mut profiles : Array Value := #[]
  for pf in <- iterate (<- r.attr (.entity bp) "profiles") do
    let mut deployments : Array Value := #[]
    for dep in <- iterate (<- r.attr pf "deployments") do
      match dep with
      | .entity d =>
        match brownfield.find? (·.1 == d.name) with
        | some (_, bf) =>
          let mut bf <- bf.set "packages" (<- r.attr dep "packages")
          bf <- bf.set "substrate" (<- r.attr dep "substrate")
          let depName <- r.attr dep "name"
          if depName.truthy && !(<- r.attr (.entity bf) "name").truthy then
            bf <- bf.set "name" depName
          deployments := deployments.push (.entity bf)
        | none => deployments := deployments.push dep
      | other => deployments := deployments.push other
    match pf with
    | .entity p => profiles := profiles.push (.entity (<- p.set "deployments" (.list deployments.toList)))
    | other => profiles := profiles.push other
  bp.set "profiles" (.list profiles.toList)

/-- The brownfield deployments that a file defines: its classes derived directly from the root
    class of brownfield deployments, by class name. The names of the file that was run before
    stay bound. -/
def brownfieldOf (r : Runtime) (path : String) : Build (List (String × Entity)) := do
  let saved := (<- get).globals
  let names <- loadFile r path
  modify fun s => { s with globals := saved }
  pure (names.filterMap fun (_, v) => match v with
    | .entity e => if derivesFromRoot [.brownfieldDeployment] v then some (e.name, e) else none
    | _ => none)

/-- The payload of a blueprint file: the blueprint it defines compiled with the metadata it
    defines, or none when it defines no blueprint. The deployments of a brownfield file replace
    those of the same name. -/
def blueprintOf (r : Runtime) (path : String) (brownfieldFile : Option String) :
    Build (Option Json) := do
  let metadata <- metadataOf r path
  let names <- loadFile r path
  let some bpValue := lastWhere names (derivesFromRoot [.blueprint, .simpleBlueprint, .vmBlueprint])
    | return none
  let .entity bp := bpValue | return none
  let brownfield <- match brownfieldFile with
    | some f => brownfieldOf r f
    | none => pure []
  let bp <- if brownfield.isEmpty then pure bp else withBrownfield r bp brownfield
  let bpValue := Value.entity bp
  let projectName <- contextProject
  if bp.kind == .simpleBlueprint then
    let d <- r.call (<- r.attr bpValue "make_bp_dict") [] []
    let payload <- r.encode false [] d
    let reference <- match metadata.get? "project_reference" with
      | some ref => pure ref
      | none => r.encode false [] (<- r.call (.builtin ["Ref.Project"]) [.str projectName] [])
    return some (payload.set "metadata" ((payload.getD "metadata").set "project_reference" reference))
  let bpValue <- if bp.kind == .vmBlueprint then r.call (<- r.attr bpValue "make_bp_obj") [] []
    else pure bpValue
  let payload <- match <- Payloads.blueprintPayload r bpValue (.ofJson metadata) with
    | .tuple (p :: _) => pure p
    | other => pure other
  let payload <- r.encode false [] payload
  let displayMap := (<- get).displayMap
  let spec := payload.getD "spec"
  let resources := (spec.getD "resources").set "client_attrs" (.obj [("None", displayMap)])
  -- the install and uninstall runbooks of packages are not actions
  let resources := match resources.get? "package_definition_list" with
    | some (.arr pkgs) => resources.set "package_definition_list" (.arr (pkgs.map (·.erase "action_list")))
    | _ => resources
  pure (some (payload.set "spec" (spec.set "resources" resources)))

def compileBlueprintFile (r : Runtime) (values : ParamValues) : Build Unit := do
  let file := textValue values "bp_file"
  let some payload <- blueprintOf r file (textValue? values "brownfield_deployment_file")
    | logError ("User blueprint not found in " ++ file)
  let (payload, hidden) := hideSecrets payload
  if hidden then logWarning "Secrets are not shown in payload !!!"
  writePayload (textValue values "out") payload

/-- The reference to the configured project, from the cache; a project the cache does not know
    is reported. -/
def configuredProjectReference : Build Json := do
  let project <- contextProject
  match (<- get).cache.project? project with
  | some p => pure (.obj [("type", .str "project"), ("uuid", .str p.uuid), ("name", .str p.name)])
  | none =>
    logError ("Project " ++ project ++ " not found. Please run: calm update cache")
    throw (.missingKey (quoted "uuid"))

/-- The payload of a runbook file: the last decorated runbook it defines, compiled, or none when
    it defines none. -/
def runbookOf (r : Runtime) (path : String) : Build (Option Json) := do
  let names <- loadFile r path
  let isRunbook (v : Value) : Bool := match v with
    | .function f => f.decorator == .runbook
    | _ => false
  let some rb := lastWhere names isRunbook | return none
  let payload <- match <- Payloads.runbookPayload r rb with
    | .tuple (p :: _) => pure p
    | other => pure other
  some <$> r.encode false [] payload

def compileRunbookFile (r : Runtime) (values : ParamValues) : Build Unit := do
  let file := textValue values "runbook_file"
  let some payload <- runbookOf r file
    | logError ("User runbook not found in " ++ file)
  let reference <- configuredProjectReference
  let payload := payload.set "metadata" ((payload.getD "metadata").set "project_reference" reference)
  writePayload (textValue values "out") payload

/-- The payload of the last endpoint that a file of the blueprint language defines, or none
    when it defines none. -/
def endpointOf (r : Runtime) (file : String) : Build (Option Json) := do
  let names <- loadFile r file
  let some ep := lastWhere names (derivesFromRoot [.endpoint]) | return none
  let payload <- match <- Payloads.endpointPayload ep with
    | .tuple (p :: _) => pure p
    | other => pure other
  pure (some (<- r.encode false [] payload))

def compileEndpointFile (r : Runtime) (values : ParamValues) : Build Unit := do
  let file := textValue values "endpoint_file"
  let some payload <- endpointOf r file
    | logError ("User endpoint not found in " ++ file)
  let project <- contextProject
  let reference <- match (<- get).cache.project? project with
    | some p => pure (obj [("type", .str "project"), ("uuid", .str p.uuid), ("name", .str p.name)])
    | none => exitWith ("Project " ++ project ++ " not found. Please run: calm update cache")
  let payload := payload.set "metadata" ((payload.getD "metadata").set "project_reference" reference)
  writePayload (textValue values "out") payload

/-- An entry of the dictionary that a reference gives. -/
def referenceField (r : Runtime) (ref : Value) (key : String) : Build Value := do
  subscript (<- r.call (<- r.attr ref "get_dict") [] []) (.str key)

/-- A list attribute of a class, empty when the class does not have it. -/
def listAttr (v : Value) (key : String) : Build (List Value) :=
  match v with
  | .entity e => iterate ((e.lookup? key).getD (.list []))
  | _ => pure []

/-- A Nutanix provider of a project with the subnets of the list `key` of an environment's
    provider added, those whose uuid it does not list yet. -/
def mergeSubnets (r : Runtime) (projectProvider envProvider : Value) (key : String) :
    Build Value := do
  let mut subnets <- listAttr projectProvider key
  for s in <- listAttr envProvider key do
    let uuid <- referenceField r s "uuid"
    let mut seen := false
    for ps in subnets do
      if (<- referenceField r ps "uuid").equal uuid then
        seen := true
        break
    if !seen then subnets := subnets ++ [s]
  match projectProvider with
  | .entity p => pure (.entity (<- p.set key (.list subnets)))
  | v => pure v

/-- A project with the infrastructure of its environments: each provider of an environment is
    added unless the project has a provider of the same account, and a Nutanix provider of the
    same account gains the environment's subnets. The environments themselves are left out. -/
def withEnvironmentProviders (r : Runtime) (project : Entity) : Build Entity := do
  if !project.hasAttr "envs" then return project
  let envs <- iterate ((project.lookup? "envs").getD (.list []))
  let mut project <- project.set "envs" (.list [])
  if project.hasAttr "default_environment" then
    project <- project.set "default_environment" (.dict [])
  let mut providers := (<- listAttr (.entity project) "providers").toArray
  for env in envs do
    for envProvider in <- listAttr env "providers" do
      let account <- referenceField r (<- r.attr envProvider "account_reference") "name"
      let mut found := false
      for i in [0:providers.size] do
        let projectProvider := providers.getD i .none
        let other <- referenceField r (<- r.attr projectProvider "account_reference") "name"
        if account.equal other then
          found := true
          if (<- r.attr projectProvider "type").isText "nutanix_pc" then
            let merged <- mergeSubnets r projectProvider envProvider "subnet_reference_list"
            let merged <- mergeSubnets r merged envProvider "external_network_list"
            providers := providers.set! i merged
      if !found then providers := providers.push envProvider
  project.set "providers" (.list providers.toList)

/-- The payload of a project as a file gives it, with the infrastructure of its environments
    and without the environments themselves. -/
def projectFilePayload (r : Runtime) (project : Entity) : Build Json := do
  let project <- withEnvironmentProviders r project
  let payload <- match <- Payloads.projectPayload (.entity project) with
    | .tuple (p :: _) => pure p
    | other => pure other
  r.encode false [] payload

def compileProjectFile (r : Runtime) (values : ParamValues) : Build Unit := do
  let file := textValue values "project_file"
  let names <- loadFile r file
  let some (.entity project) := lastWhere names (derivesFromRoot [.project])
    | logError ("User project not found in " ++ file)
  writePayload (textValue values "out") (<- projectFilePayload r project)

/-- The items of a list of a payload's resources. -/
def resourceItems (payload : Json) (key : String) : List Json :=
  match ((payload.getD "spec").getD "resources").getD key with
  | .arr items => items
  | _ => []

/-- A payload with a list of its resources replaced. -/
def setResourceItems (payload : Json) (key : String) (items : List Json) : Json :=
  let spec := payload.getD "spec"
  let resources := spec.getD "resources"
  if resources.get? key |>.isSome then
    payload.set "spec" (spec.set "resources" (resources.set key (.arr items)))
  else payload

/-- The payload of an environment as a file gives it: credentials lose their default flag,
    credentials and substrates get fresh uuids, and a readiness probe's login credential gets
    the uuid of the credential it names. -/
def environmentFilePayload (r : Runtime) (env : Entity) : Build Json := do
  let providers := (env.lookup? "providers").getD (.list [])
  if !providers.truthy then
    logWarning ("From Calm v3.2, providers(infra) will be required to use environment " ++
      "for blueprints/marketplace usage")
  let payload <- match <- Payloads.environmentPayload (.entity env) (.dict []) with
    | .tuple (p :: _) => pure p
    | other => pure other
  let payload <- r.encode false [] payload
  let mut creds : List Json := []
  for cred in resourceItems payload "credential_definition_list" do
    creds := creds ++ [(cred.erase "default").set "uuid" (.str (<- Build.freshId))]
  let mut subs : List Json := []
  for sub in resourceItems payload "substrate_definition_list" do
    subs := subs ++ [sub.set "uuid" (.str (<- Build.freshId))]
  let uuidOf (name : Json) : Option Json :=
    (creds.find? (·.getD "name" == name)).map (·.getD "uuid")
  let linked := subs.map fun sub =>
    match sub.get? "readiness_probe" with
    | some probe =>
      match probe.get? "login_credential_local_reference" with
      | some ref =>
        match uuidOf (ref.getD "name") with
        | some uuid =>
          sub.set "readiness_probe" (probe.set "login_credential_local_reference" (ref.set "uuid" uuid))
        | none => sub
      | none => sub
    | none => sub
  let payload := setResourceItems payload "credential_definition_list" creds
  pure (setResourceItems payload "substrate_definition_list" linked)

/-- `compile environment`: the environment is compiled in the project given. -/
def compileEnvironmentFile (r : Runtime) (values : ParamValues) : Build Unit := do
  let file := textValue values "env_file"
  let saved := (<- get).project
  modify fun s => { s with project := textValue values "project_name" }
  let names <- loadFile r file
  let some (.entity env) := lastWhere names (derivesFromRoot [.environment])
    | logError ("User environment not found in " ++ file)
  let payload <- environmentFilePayload r env
  modify fun s => { s with project := saved }
  writePayload (textValue values "out") payload

end Blueprints.Cli
