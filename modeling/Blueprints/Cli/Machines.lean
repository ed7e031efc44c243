import Blueprints.Cli.Listings

namespace Blueprints.Cli

open Library Http Build Api

def accounts : Api.Resource := .named "AccountsAPI" "accounts"

/-- The account of a project that a listing uses: the account's name and the uuid by which the
    server knows its machines, with the project's uuid. -/
structure ProjectAccount where
  projectUuid : Value
  accountName : Value
  accountUuid : Value

/-- The first of the uuids that the map has a name for, with that name. -/
def firstNamed (uuids : List Value) (names : Value) : Option (Value × Value) :=
  match names with
  | .dict entries =>
    uuids.findSome? fun u => (entries.find? (·.1.equal u)).map fun (_, name) => (u, name)
  | _ => none

/-- The account of a project that a listing of a provider's machines uses, and the project's
    uuid. A project that the server does not have, or that allows none of the accounts, ends the
    command; so does a Nutanix account without a cluster, when the cluster is asked for. -/
def projectAccount (project : String) (account : Option String) (providerType : String)
    (clusterNeeded : Bool) : Build ProjectAccount := do
  let byName := match account.filter (!·.isEmpty) with
    | some name => ";name==" ++ name
    | none => ""
  let names <- accounts.uuidNameMap (dictOf [("length", .int 250),
    ("filter", .str ("state!=DELETED;type==" ++ Kinds.accountTypeOf providerType ++ byName))])
  logInfo ("Fetching project '" ++ project ++ "' details")
  let response <- (<- (Api.Resource.named "ProjectAPI" "projects").list
    (dictOf [("length", .int 250), ("filter", .str ("name==" ++ project))])).jsonOrRaise
  if (<- path! response ["metadata", "total_matches"]).equal (.int 0) then
    exitWith ("Project " ++ project ++ " not found")
  let data <- subscript (<- at! response "entities") (.int 0)
  let allowed <- getOr (<- path! data ["status", "resources"]) "account_reference_list"
    (.list [])
  let mut uuids : List Value := []
  for reference in <- iterate allowed do
    uuids := uuids ++ [<- at! reference "uuid"]
  let projectUuid <- path! data ["metadata", "uuid"]
  let some (uuid, name) := firstNamed uuids names
    | exitWith "No account with given details found in project"
  if !(clusterNeeded && providerType == "AHV_VM") then
    return { projectUuid, accountName := name, accountUuid := uuid }
  logInfo ("Fetching account '" ++ name.toText ++ "' details")
  let details <- (<- accounts.read uuid).jsonOrRaise
  let clusters <- getOr (<- path! details ["status", "resources", "data"])
    "cluster_account_reference_list" (.list [])
  if !clusters.truthy then
    exitWith ("No cluster found in ahv account (uuid='" ++ uuid.toText ++ "')")
  pure { projectUuid, accountName := name,
         accountUuid := <- at! (<- subscript clusters (.int 0)) "uuid" }

/-- `a // 1024` of an amount in mebibytes or kibibytes, the next larger unit. -/
def nextUnit (amount : Value) : Build Value := arith .floorDiv amount (.int 1024)

/-- The columns of a table of existing machines of a provider, and a row's cells from the
    resources of a machine. -/
structure MachineTable where
  headers : List String
  row : Value -> Build (List String)

/-- The table of existing Nutanix machines. -/
def nutanixMachines : MachineTable where
  headers := ["NAME", "CLUSTER", "SUBNET", "ADDRESS", "MEMORY", "SOCKETS", "VCPU", "ID"]
  row r := do
    let cluster <- at! r "cluster_name"
    let subnets <- at! r "subnet_list"
    let address <- joinTexts "," (<- at! r "address_list")
    let memory <- nextUnit (<- at! r "memory_size_mib")
    let sockets <- at! r "num_sockets"
    let vcpus <- at! r "num_vcpus_per_socket"
    let id <- at! r "instance_id"
    let name <- at! r "instance_name"
    pure [name.toText, cluster.toText, subnets.toText, address, memory.toText, sockets.toText,
      vcpus.toText, id.toText]

def awsMachines : MachineTable where
  headers := ["NAME", "PUBLIC IP ADDRESS", "PRIVATE DNS", "PUBLIC DNS", "REGION", "POWER STATE",
    "ID"]
  row r := do
    let address <- joinTexts "," (<- at! r "public_ip_address")
    let privateDns <- at! r "private_dns_name"
    let publicDns <- joinTexts "," (<- at! r "public_dns_name")
    let region <- joinTexts "," (<- at! r "region")
    let power <- at! r "power_state"
    let id <- at! r "instance_id"
    let name <- at! r "instance_name"
    pure [name.toText, address, privateDns.toText, publicDns, region, power.toText, id.toText]

def azureMachines : MachineTable where
  headers := ["NAME", "RESOURCE GROUP", "LOCATION", "PUBLIC IP", "PRIVATE IP",
    "HARDWARE PROFILE", "ID"]
  row r := do
    let id <- at! r "instance_id"
    let name <- at! r "instance_name"
    let group <- at! r "resource_group"
    let location <- at! r "location"
    let publicIp <- at! r "public_ip_address"
    let privateIp <- at! r "private_ip_address"
    let hardware <- getOr (<- at! r "properties") "hardwareProfile" (.dict [])
    let size <- getOr hardware "vmSize" (.str "")
    pure [name.toText, group.toText, location.toText, publicIp.toText, privateIp.toText,
      size.toText, id.toText]

def gcpMachines : MachineTable where
  headers := ["NAME", "ZONE", "SUBNETS", "NETWORK", "NAT IP", "NETWORK NAME", "ID"]
  row r := do
    let id <- at! r "id"
    let name <- at! r "instance_name"
    let zone <- at! r "zone"
    let subnet <- at! r "subnetwork"
    let network <- at! r "network"
    let natIp <- joinTexts "," (<- at! r "natIP")
    let networkName <- joinTexts "," (<- at! r "network_name")
    pure [name.toText, zone.toText, subnet.toText, network.toText, natIp, networkName,
      id.toText]

/-- The table of existing VMware machines. Servers from 3.3.0 on describe a machine with keys
    of their own; older ones with the keys of the vSphere inventory. -/
def vmwareMachines (recentKeys : Bool) : MachineTable where
  headers := ["NAME", "HOSTNAME", "IP ADDRESS", "VCPU", "CORES PER VCPU", "MEMORY (GIB)",
    "GUEST FAMILY", "TEMPLATE", "ID"]
  row r := do
    let id <- at! r "instance_id"
    let name <- at! r "instance_name"
    let keys := if recentKeys then
        ["guest_hostname", "guest_ipaddress", "cpu", "num_vcpus_per_socket", "memory",
         "guest_family", "is_template"]
      else
        ["guest.hostName", "guest.ipAddress", "config.hardware.numCPU",
         "config.hardware.numCoresPerSocket", "config.hardware.memoryMB", "guest.guestFamily",
         "config.template"]
    let key (i : Nat) : String := keys.getD i ""
    let host <- at! r (key 0)
    let address <- joinTexts "," (<- at! r (key 1))
    let vcpus <- at! r (key 2)
    let cores <- at! r (key 3)
    let memory <- nextUnit (.int (<- integerOf (<- at! r (key 4))))
    let family <- getOr r (key 5) (.str "")
    let template <- getOr r (key 6) (.bool false)
    pure [name.toText, host.toText, address, vcpus.toText, cores.toText, memory.toText,
      family.toText, template.toText, id.toText]

/-- The table of existing machines of a provider type. -/
def machineTable (providerType : String) : Build (Option MachineTable) := do
  match providerType with
  | "AHV_VM" => pure (some nutanixMachines)
  | "AWS_VM" => pure (some awsMachines)
  | "AZURE_VM" => pure (some azureMachines)
  | "GCP_VM" => pure (some gcpMachines)
  | "VMWARE_VM" => pure (some (vmwareMachines (<- serverAtLeast "3.3.0")))
  | _ => pure none

def listBrownfieldMachines (values : ParamValues) : Build Unit := do
  let providerType := textValue values "provider_type"
  let found <- projectAccount (textValue values "project") (textValue? values "account")
    providerType true
  logInfo ("Using account '" ++ found.accountName.toText ++ "' for listing brownfield vms")
  logInfo "Fetching brownfield vms"
  let params := dictOf [("length", paramValue values "limit"),
    ("offset", paramValue values "offset"),
    ("filter", .str ("project_uuid==" ++ found.projectUuid.toText ++ ";account_uuid==" ++
      found.accountUuid.toText))]
  let outcome <- (Api.Resource.named "BrownfieldAPI" "blueprints/brownfield_import/vms").list params
  outcome.exitOnErrorText
  let response <- outcome.json
  if textValue values "out" == "json" then return <- printJson response
  let machines <- entitiesOf response
  if machines.isEmpty then
    return <- print ("No brownfield " ++ providerType ++ " found on account '" ++
      found.accountName.toText ++ "' !!!\n\n")
  if flagValue values "quiet" then
    return <- printNames machines statusName
  let some table <- machineTable providerType | return
  printGrid table.headers
    (<- machines.mapM fun m => do table.row (<- path! m ["status", "resources"]))

/-- `get vm-recovery-points`: the recovery points of the machines of the project's Nutanix
    account, of a name when one is given. -/
def listRecoveryPoints (values : ParamValues) : Build Unit := do
  let found <- projectAccount (textValue values "project") (textValue? values "account")
    "AHV_VM" false
  logInfo ("Using account '" ++ found.accountName.toText ++ "' for listing brownfield vms")
  let byName := match (textValue? values "name").filter (!·.isEmpty) with
    | some name => ";name==" ++ name
    | none => ""
  let limit := paramValue values "limit"
  let params := dictOf [("filter", .str ("account_uuid==" ++ found.accountUuid.toText ++
    byName)), ("length", limit), ("offset", paramValue values "offset")]
  let outcome <- (Api.Resource.named "VmRecoveryPointAPI" "nutanix/v1/vm_recovery_points").list
    params
  if outcome.error.isSome then
    return <- logWarning ("Cannot fetch vm recovery points from account " ++
      found.accountName.toText)
  let response <- outcome.json
  warnTruncated response limit
  if textValue values "out" == "json" then return <- printJson response
  let points <- entitiesOf response
  if points.isEmpty then return <- noneFound "vm recovery point"
  if flagValue values "quiet" then return <- printNames points statusName
  printGrid ["NAME", "UUID", "STATE", "TYPE", "PARENT_VM_REF"] (<- points.mapM fun p => do
    let status <- at! p "status"
    let metadata <- at! p "metadata"
    pure [(<- at! status "name").toText, (<- at! metadata "uuid").toText,
      (<- at! status "state").toText,
      (<- path! status ["resources", "recovery_point_type"]).toText,
      (<- path! status ["resources", "parent_vm_reference", "uuid"]).toText])

/-- The kind of a protection rule, by the retention policy it has, and how many days its
    snapshots are kept, as a table shows them: a rule with neither policy has no kind, and a
    rule without an expiry shows `-`. -/
def ruleRetention (rule : Value) : Build (String × String) := do
  let remote <- getOr rule "remote_snapshot_retention_policy" (.dict [])
  let localPolicy <- getOr rule "local_snapshot_retention_policy" (.dict [])
  let (kind, expiry) <- if remote.truthy then do
      pure ("Remote", <- getOr (<- getOr remote "snapshot_expiry_policy" (.dict [])) "multiple"
        (.str ""))
    else if localPolicy.truthy then do
      pure ("Local", <- getOr (<- getOr localPolicy "snapshot_expiry_policy" (.dict []))
        "multiple" (.str ""))
    else pure ("", .int 0)
  pure (kind, if expiry.truthy then expiry.toText else "-")

/-- `get protection-policies`: a row for each rule of each policy, of the project given or of
    every project. -/
def listProtectionPolicies (values : ParamValues) : Build Unit := do
  logInfo "Fetching protection policies"
  let mut params := [("length", paramValue values "limit"), ("offset", paramValue values "offset")]
  if let some name := (textValue? values "project").filter (!·.isEmpty) then
    let project <- fetchProject name
    params := params ++
      [("filter", .str ("project_reference==" ++ (<- path! project ["metadata", "uuid"]).toText))]
  let outcome <- (Api.Resource.named "AppProtectionPolicyAPI" "app_protection_policies" true).list
    (dictOf params)
  if let some err := outcome.error then
    logError err.toText
    throw (.exit "Unable to list protection policies")
  let policies <- entitiesOf (<- outcome.json)
  if policies.isEmpty then return <- noneFound "protection policy"
  let quiet := flagValue values "quiet"
  let mut rows : List (List String) := []
  for policy in policies do
    let name <- path! policy ["status", "name"]
    if quiet then
      for rule in <- iterate (<- path! policy ["status", "resources", "app_protection_rule_list"]) do
        rows := rows ++ [[name.toText, (<- at! rule "name").toText]]
    else
      let uuid <- path! policy ["metadata", "uuid"]
      let project <- getOr (<- at! policy "metadata") "project_reference" (.dict [])
      for rule in <- iterate (<- path! policy ["status", "resources", "app_protection_rule_list"]) do
        let (kind, expiry) <- ruleRetention rule
        let ruleName <- at! rule "name"
        let ruleUuid <- at! rule "uuid"
        rows := rows ++ [[name.toText, uuid.toText, ruleName.toText, ruleUuid.toText, kind, expiry,
          (<- getOr project "name" (.str "")).toText]]
  let headers := if quiet then ["NAME", "RULE NAME"]
    else ["NAME", "UUID", "RULE NAME", "RULE UUID", "RULE TYPE", "EXPIRY (DAYS)", "PROJECT"]
  printGrid headers rows

end Blueprints.Cli
