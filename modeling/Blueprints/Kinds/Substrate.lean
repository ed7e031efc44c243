import Blueprints.Kinds.Core
import Blueprints.Library.References

namespace Blueprints.Kinds

open Library Build Http

/-- The nearest class of kind `k` among a class and the classes it is nested in (nearest first),
    with the classes that it is nested in itself. -/
def nearestOfKind (k : Kind) : List Entity -> Option (Entity × List Entity)
  | [] => none
  | e :: rest => if e.kind == k then some (e, rest) else nearestOfKind k rest

/-- The account type of a provider of virtual machines; other providers have none. -/
def accountTypeOf (providerType : String) : String :=
  match providerType with
  | "AWS_VM" => "aws"
  | "VMWARE_VM" => "vmware"
  | "AHV_VM" => "nutanix_pc"
  | "AZURE_VM" => "azure"
  | "GCP_VM" => "gcp"
  | _ => ""

/-- The text of a value that stands for a name or uuid. -/
def textOf (v : Value) : String := v.toText

/-- A dictionary that stands for an account of the project, by uuid. -/
def projectAccount (uuid : String) : Value :=
  textDict [("uuid", .str uuid), ("kind", .str "account")]

/-- Reads the deployments of every profile of a blueprint and the names of their substrates, as
    looking for the profile of a substrate does; a deployment without a substrate stops it. -/
def scanProfiles (r : Runtime) (bp : Entity) : Build Unit := do
  let profiles <- attrOfValue r (.entity bp) "profiles"
  for p in <- iterate profiles do
    let deployments <- attrOfValue r p "deployments"
    for d in <- iterate deployments do
      let sub <- attrOfValue r d "substrate"
      match sub with
      | .entity _ => let _ <- attrOfValue r sub "name"
      | v => throw (v.noAttribute "name")

/-- The uuid of the account that substrate `sub` uses; `above` are the classes it is nested in,
    nearest first. The account is the substrate's own, which must be one the project (or the
    environment holding the substrate) allows, else the environment's account of the provider,
    else the project's first account of the provider. Providers without accounts use none. -/
def referencedAccount (r : Runtime) (sub : Entity) (above : List Entity) : Build String := do
  let providerType := match sub.lookup? "provider_type" with
    | some (.str s) => s
    | _ => ""
  let accountType := accountTypeOf providerType
  if accountType.isEmpty then return ""
  let mut account : Value := (sub.lookup? "account").getD (.dict [])
  let project <- References.currentProject
  let projectAccounts := project.accountsOf accountType
  let some firstAccount := projectAccounts.head?
    | exitWith ("No '" ++ accountType ++ "' account registered to project '" ++
        project.name ++ "'")
  if let some (bp, _) := nearestOfKind .blueprint (sub :: above) then
    scanProfiles r bp
    if account.truthy then
      let uuid <- itemOf r account "uuid"
      if !projectAccounts.any (fun a => uuid.isText a) then
        let name <- itemOf r account "name"
        exitWith ("Account '" ++ textOf name ++ "' not filtered in project '" ++
          project.name ++ "'")
    else account := projectAccount firstAccount
  if let some (env, _) := nearestOfKind .environment (sub :: above) then
    let providers := (env.lookup? "providers").getD (.list [])
    let mut allowed : Value := .dict []
    for p in <- iterate providers do
      let ptype <- attrOfValue r p "type"
      if ptype.isText accountType then
        allowed <- getDict r (<- attrOfValue r p "account_reference")
        break
    let allowedUuid <- match allowed with
      | .dict entries => pure ((dictGet? entries "uuid").getD (.str ""))
      | _ => pure (.str "")
    if account.truthy then
      let uuid <- itemOf r account "uuid"
      if !uuid.equal allowedUuid then
        let name <- itemOf r account "name"
        exitWith ("Account '" ++ textOf name ++ "' not filtered in environment '" ++
          env.name ++ "'")
    else if !allowed.truthy then
      exitWith ("No account is filtered in environment '" ++ env.name ++ "'")
    else account := allowed
  if !account.truthy then account := projectAccount firstAccount
  pure (textOf (<- itemOf r account "uuid"))

/-- Whether a text is a macro, `@@{...}@@`, that the server fills in. -/
def isMacro (s : String) : Bool := s.startsWith "@@\x7b" && s.endsWith "\x7d@@"

/-- The cluster account of PC account `pcUuid` that manages cluster `cluster`, or the empty
    text. -/
def clusterAccount (cache : Cache) (pcUuid cluster : String) : String :=
  match cache.accountById? pcUuid with
  | some acc => ((acc.clusters.reverse.find? (·.2 == cluster)).map (·.1)).getD ""
  | none => ""

/-- The cluster account of the subnet a network card names, by subnet and cluster name. -/
def clusterOfNamedSubnet (pcUuid subnet cluster : String) : Build String := do
  let cache := (<- get).cache
  match cache.subnet? subnet cluster pcUuid with
  | some row => pure (clusterAccount cache pcUuid row.cluster)
  | none =>
    logError ("Ahv Subnet (name = '" ++ subnet ++
      "') not found in registered Nutanix PC account (uuid = '" ++ pcUuid ++ "') ")
    throw (.exit ("AHV Subnet " ++ subnet ++ " not found"))

/-- The cluster account of the subnet a network card names, by subnet uuid. -/
def clusterOfSubnetUuid (pcUuid subnetUuid : String) : Build String := do
  let cache := (<- get).cache
  match cache.subnetById? subnetUuid pcUuid with
  | some row => pure (clusterAccount cache pcUuid row.cluster)
  | none =>
    logError ("AHV Subnet (uuid='" ++ subnetUuid ++
      "') not found. Please check subnet or update cache")
    throw (.exit ("Ahv Subnet " ++ subnetUuid ++ " not found"))

/-- The readiness probe of a substrate before the provider's defaults: its own, compiled, or an
    empty one. -/
def probeOf (r : Runtime) (v : Value) : Build Doc := do
  match v with
  | .entity rp => r.compile [] rp
  | .dict entries@(_ :: _) => pure (entries.map fun (k, x) => (k.toText, x))
  | _ => r.compile [] (<- Entity.create .readinessProbe none [] none [])

/-- A field of the probe set to `v` when it is empty. -/
def fillEmpty (d : Doc) (key : String) (v : Value) : Doc :=
  if (d.field key).truthy then d else d.put key v

/-- The address the probe of a machine of a provider reaches it at, unless the probe gives one. -/
def probeAddress (vmType : String) : Option String :=
  match vmType with
  | "AHV_VM" => some "@@\x7bplatform.status.resources.nic_list[0].ip_endpoint_list[0].ip\x7d@@"
  | "EXISTING_VM" => some "@@\x7bip_address\x7d@@"
  | "AWS_VM" => some "@@\x7bpublic_ip_address\x7d@@"
  | "AZURE_VM" => some "@@\x7bplatform.publicIPAddressList[0]\x7d@@"
  | "VMWARE_VM" => some "@@\x7bplatform.ipAddressList[0]\x7d@@"
  | "GCP_VM" => some "@@\x7bplatform.networkInterfaces[0].accessConfigs[0].natIP\x7d@@"
  | _ => none

/-- The account type of the cloud providers whose substrates get an empty specification. -/
def cloudAccountType (vmType : String) : Option String :=
  match vmType with
  | "AWS_VM" => some "aws"
  | "VMWARE_VM" => some "vmware"
  | "AZURE_VM" => some "azure"
  | "GCP_VM" => some "gcp"
  | _ => none

/-- The empty specification of a cloud provider, on the first account of its type in the
    project of the file. -/
def emptyCloudSpec (vmType accountType : String) : Build Value := do
  let configured <- contextProject
  let s <- get
  let reference : Option Json := s.metadata.get? "project_reference"
  let name := match reference.bind (·.get? "name") with
    | some (.str n) => n
    | _ => configured
  let some project := s.cache.project? name
    | exitWith ("Project " ++ name ++ " not found. Please run: calm update cache")
  let some first := (project.accountsOf accountType).head?
    | exitWith ("No " ++ accountType ++ " account registered in project '" ++ name ++ "'")
  let resources := textDict [("account_uuid", .str first)]
  if vmType == "VMWARE_VM" then
    pure (textDict [("resources", resources), ("template", .str "")])
  else pure (textDict [("resources", resources)])

/-- The account uuid that a specification given as data names, or the empty text. -/
def specAccount (spec : Value) : Value :=
  match spec with
  | .dict entries =>
    match dictGet? entries "resources" with
    | some (.dict res) => (dictGet? res "account_uuid").getD (.str "")
    | _ => .str ""
  | _ => .str ""

/-- Sets `spec["resources"]["account_uuid"]` of a specification given as data. -/
def setSpecAccount (spec : Value) (uuid : String) : Build Value := do
  match spec with
  | .dict entries =>
    match dictGet? entries "resources" with
    | some (.dict res) =>
      pure (.dict (dictPut entries "resources" (.dict (dictPut res "account_uuid" (.str uuid)))))
    | some v => throw v.noItemAssignment
    | none => throw (.missingKey "'resources'")
  | v => throw v.notSubscriptable

/-- The subnet name and cluster of the first network card of an AHV machine class whose subnet
    is not a macro, if any. -/
def firstNamedSubnet (r : Runtime) (vm : Entity) : Build (Option (String × String)) := do
  let resources <- attrOfValue r (.entity vm) "resources"
  let nics <- attrOfValue r resources "nics"
  for nic in <- iterate nics do
    let reference <- attrOfValue r nic "subnet_reference"
    let d <- getDict r reference
    let name <- subscript d (.str "name")
    if !isMacro (textOf name) then
      let cluster <- subscript d (.str "cluster")
      return some (textOf name, References.filterText cluster)
  pure none

/-- The uuid of the first subnet of a specification given as data that is not a macro, if
    any. -/
def firstSubnetUuid (spec : Value) : Build String := do
  let resources <- match spec with
    | .dict entries => pure ((dictGet? entries "resources").getD (.dict []))
    | _ => pure (.dict [])
  let nics <- match resources with
    | .dict entries => pure ((dictGet? entries "nic_list").getD (.list []))
    | v => throw (v.noAttribute "get")
  for nic in <- iterate nics do
    let reference <- subscript nic (.str "subnet_reference")
    let uuid <- match reference with
      | .dict entries => pure ((dictGet? entries "uuid").getD (.str ""))
      | v => throw (v.noAttribute "get")
    if uuid.truthy && !isMacro (textOf uuid) then return textOf uuid
  pure ""

/-- Records the AHV machine of a substrate in the display-name map, inside the substrate's
    entry. -/
def recordMachineName (e vm : Entity) : Build Unit := do
  let ui := displayName e
  modify fun s =>
    let subs := (s.displayMap.get? "Substrate").getD (.obj [])
    let entry := (subs.get? ui).getD (.obj [])
    let entry' := entry.set "AhvVm"
      (.obj [(displayName vm, .obj [("dsl_name", .str vm.name)])])
    { s with displayMap := s.displayMap.set "Substrate" (subs.set ui entry') }

/-- A readiness probe's compiled dictionary: the login credential, when there is one, comes
    last. -/
def compileReadinessProbe (r : Runtime) (e : Entity) : Build Doc := do
  let d <- compileGeneric r e
  let cred := d.field "login_credential_local_reference"
  let d := d.remove "login_credential_local_reference"
  pure (if cred.truthy then d.put "login_credential_local_reference" cred else d)

/-- A substrate's compiled dictionary; `parents` are the classes it is nested in, nearest
    first. -/
def compileSubstrate (r : Runtime) (parents : List Entity) (e : Entity) : Build Doc := do
  let mut d <- compileGeneric r e
  if let some (.entity vm) := e.lookup? "provider_spec" then
    if vm.kind.isA .ahvVm then recordMachineName e vm
  let mut probe <- probeOf r (d.field "readiness_probe")
  let linux := (d.field "os_type").isText "Linux"
  probe := fillEmpty probe "connection_type" (.str (if linux then "SSH" else "POWERSHELL"))
  probe := fillEmpty probe "connection_port" (.int (if linux then 22 else 5985))
  probe := fillEmpty probe "connection_protocol" (.str (if linux then "" else "http"))
  let vmType := textOf (d.field "type")
  if (d.field "vm_recovery_spec").truthy && vmType != "AHV_VM" then
    logError ("Recovery spec is supported only for AHV_VM substrate (given " ++ vmType ++ ")")
    throw (.exit "Unknown attribute vm_recovery_spec given")
  if vmType == "K8S_POD" then
    probe := probe.put "address" (.str "")
    d := d.remove "editables"
  else
    match probeAddress vmType with
    | some address => probe := fillEmpty probe "address" (.str address)
    | none => throw (.failure ("Un-supported vm type :" ++ vmType))
  if vmType == "AHV_VM" then
    let recovery := d.field "vm_recovery_spec"
    if recovery.truthy then
      d := d.remove "vm_recovery_spec"
      let vmName <- attrOfValue r recovery "vm_name"
      let resources <- attrOfValue r recovery "vm_override_resources"
      let vm <- makeClass .ahvVm vmName [] [("name", vmName), ("resources", resources)]
      d := d.put "create_spec" (.entity vm)
      d := d.put "recovery_point_reference" (<- attrOfValue r recovery "recovery_point")
  if !(d.field "vm_recovery_spec").truthy then d := d.remove "vm_recovery_spec"
  if !(d.field "create_spec").truthy then
    if vmType == "AHV_VM" then
      d := d.put "create_spec" (textDict [("resources", textDict [("nic_list", .list [])])])
    else if let some accountType := cloudAccountType vmType then
      d := d.put "create_spec" (<- emptyCloudSpec vmType accountType)
  let specEditables := (d.field? "editables").getD (.dict [])
  d := d.remove "editables"
  let mut editables : List (Value × Value) := []
  if specEditables.truthy then editables := [(.str "create_spec", specEditables)]
  let probeEditables := (probe.field? "editables_list").getD (.list [])
  probe := probe.remove "editables_list"
  if probeEditables.truthy then
    let keys <- iterate probeEditables
    let marks := keys.foldl (fun acc k =>
      if acc.any (·.1.equal k) then acc else acc ++ [(k, Value.bool true)]) []
    editables := editables ++ [(.str "readiness_probe", .dict marks)]
  d := d.put "editables" (.dict editables)
  let subAccount <- referencedAccount r e parents
  let spec := d.field "create_spec"
  let specUuid := specAccount spec
  if !subAccount.isEmpty then
    let cache := (<- get).cache
    let some acc := cache.accountById? subAccount
      | exitWith ("Account (uuid=" ++ subAccount ++ ") not found. Please update cache")
    if specUuid.truthy then
      if vmType == "AHV_VM" then
        if !acc.clusters.any (fun (u, n) => specUuid.isText u && !n.isEmpty) then
          exitWith ("cluster account_uuid (uuid=" ++ textOf specUuid ++
            ") used in the provider spec is not found to be registered under the Nutanix PC " ++
            "account " ++ acc.name ++ ". Please update cache")
      else if vmType != "EXISTING_VM" && !specUuid.isText subAccount then
        exitWith ("Account '" ++ acc.name ++ "'(uuid='" ++ subAccount ++
          "') not matched with account_uuid used in provider-spec (uuid=" ++ textOf specUuid ++ ")")
    else if vmType == "AHV_VM" then
      let some (firstCluster, _) := acc.clusters.head?
        | throw (.outOfRange "list index out of range")
      match spec with
      | .entity vm =>
        let subnet <- firstNamedSubnet r vm
        let clusterUuid <- match subnet with
          | some (name, cluster) =>
            if name.isEmpty then pure firstCluster
            else clusterOfNamedSubnet subAccount name cluster
          | none => pure firstCluster
        let resources <- attrOfValue r spec "resources"
        match resources with
        | .entity res =>
          let res' <- res.set "account_uuid" (.str clusterUuid)
          d := d.put "create_spec" (.entity (vm.setAttr "resources" (.entity res')))
        | v => throw (.missingAttribute ("'" ++ v.typeName ++
            "' object has no attribute 'account_uuid'"))
      | _ =>
        let subnetUuid <- firstSubnetUuid spec
        let clusterUuid <- if subnetUuid.isEmpty then pure firstCluster
          else clusterOfSubnetUuid subAccount subnetUuid
        d := d.put "create_spec" (<- setSpecAccount spec clusterUuid)
  if !(["EXISTING_VM", "AHV_VM", "K8S_POD"].contains vmType) then
    d := d.put "create_spec" (<- setSpecAccount (d.field "create_spec") subAccount)
  d := d.remove "account_reference"
  d := d.put "readiness_probe" (.dict (probe.map fun (k, v) => (.str k, v)))
  pure d

/-- The names of a list of entities of the server, each with the uuids of the entities of that
    name, in the order the names first appear. -/
def uuidsByName (entities : List Value) : Build (List (String × List Value)) := do
  let mut groups : List (String × List Value) := []
  for entity in entities do
    let name := (<- at! (<- at! entity "status") "name").toText
    let uuid <- at! (<- at! entity "metadata") "uuid"
    groups := match groups.find? (·.1 == name) with
      | some _ => groups.map fun (n, us) => if n == name then (n, us ++ [uuid]) else (n, us)
      | none => groups ++ [(name, [uuid])]
  pure groups

/-- A reference to a recovery point of a machine, looked up on the server by its uuid or by its
    name among those of the account of the substrate it is given in (or of the account given
    with it). The first name the server lists must be one recovery point's alone. -/
def compileRecoveryPoint (r : Runtime) (parents : List Entity) (e : Entity) : Build Doc := do
  let given (k : String) : Value := (e.lookup? k).getD .none
  let mut account := ""
  if let some (sub, above) := nearestOfKind .substrate parents then
    account <- referencedAccount r sub above
  if account.isEmpty then account := (given "account_uuid").toText
  if account.isEmpty then
    logError "Account uuid not found"
    throw (.exit "Account not found for vm recovery point")
  let uuid := given "uuid"
  let name := given "name"
  let filter := "account_uuid==" ++ account ++
    (if uuid.truthy then ";uuid==" ++ uuid.toText else ";name==" ++ name.toText)
  let path := "api/nutanix/v3/nutanix/v1/vm_recovery_points/list"
  let params := Value.dict [(.str "filter", .str filter)]
  let outcome <- Http.Call.send { method := .post, endpoint := path, payload := params }
  if let some err := outcome.error then raiseError err
  let res <- outcome.json
  let total <- at! (<- at! res "metadata") "total_matches"
  let groups <- if total.equal (.int 0) then pure [] else uuidsByName (<- iterate (<- at! res "entities"))
  match groups.head? with
  | none =>
    logError ("No recovery point found with " ++
      (if uuid.truthy then "uuid='" ++ uuid.toText ++ "'" else "name='" ++ name.toText ++ "'"))
    throw (.exit "No recovery point found")
  | some (found, [one]) =>
    pure [("kind", .str "vm_recovery_point"), ("name", .str found), ("uuid", one)]
  | some (found, _) =>
    logError ("Multiple recovery points found with name='" ++ found ++ "'. Please provide uuid.")
    throw (.exit "Multiple recovery points found")

end Blueprints.Kinds
