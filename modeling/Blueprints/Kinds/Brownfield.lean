import Blueprints.Kinds.Substrate

namespace Blueprints.Kinds

open Library Build Http

/-- The name a provider of brownfield machines has in messages. -/
def brownfieldProviderName (providerType : String) : String :=
  match providerType with
  | "AHV_VM" => "nutanix"
  | "AWS_VM" => "aws"
  | "AZURE_VM" => "azure"
  | "VMWARE_VM" => "vmware"
  | "GCP_VM" => "gcp"
  | p => p

/-- How many machines a provider's brownfield list asks for at once. -/
def brownfieldPageLength (providerType : String) : Nat :=
  if providerType == "AHV_VM" || providerType == "AZURE_VM" then 1000 else 250

/-- The texts a value holds as a collection: the items of a list, or the characters of a
    text. -/
def textItems (v : Value) : List String :=
  match v with
  | .list xs | .tuple xs => xs.map Value.toText
  | .str s => s.toList.map Char.toString
  | _ => []

/-- A dictionary's entry under a text key, which must be there. -/
def entryAt (v : Value) (key : String) : Build Value := at! v key

/-- Whether a machine of the server matches the instance a file names; a partial match is
    refused. -/
def machineMatches (vmName vmId : Value) (vmAddresses : List String) (name id : Value)
    (addresses : List String) : Build Bool := do
  let subset := addresses.all (vmAddresses.contains ·)
  let nameOk : Build Unit := do
    if name.truthy && !name.equal vmName then
      exitWith ("Provided instance_name (" ++ name.toText ++
        ") not matched with server instance name (" ++ vmName.toText ++ ")")
  if id.truthy then
    if !id.equal vmId then return false
    if !subset then
      let missing := (addresses.filter (!vmAddresses.contains ·)).eraseDups
      exitWith ("IP Address \x7b" ++ ", ".intercalate (missing.map Text.quoted) ++
        "\x7d not found in instance(id=" ++ vmId.toText ++ ")")
    nameOk
    return true
  if !addresses.isEmpty then
    if !subset then return false
    nameOk
    return true
  pure (name.equal vmName)

/-- The account whose brownfield machines a machine is looked up in. -/
def brownfieldAccount (r : Runtime) (vm : Entity) (parents : List Entity) (providerType : String) :
    Build String := do
  let project <- References.currentProject
  let environment : Option Value := match nearestOfKind .profile parents with
    | some (p, _) => match p.lookup? "environment" with
      | some v => if v.truthy then some v else none
      | none => none
    | none => none
  let substrate <- match nearestOfKind .brownfieldDeployment parents with
    | some (d, _) => match d.lookup? "substrate" with
      | some (.entity s) =>
        match s.lookup? "__self__" with
        | some (.entity target) => pure (some target)
        | _ => pure none
      | _ => pure none
    | none => pure none
  let mut account := match vm.lookup? "account_uuid" with
    | some (.str s) => s
    | _ => ""
  if let some sub := substrate then
    let given := (sub.lookup? "account").getD .none
    if given.truthy then account := (<- itemOf r given "uuid").toText
  if !account.isEmpty then return account
  let accountType := accountTypeOf providerType
  let accounts <- match environment with
    | some env => do
      let uuid <- itemOf r env "uuid"
      match (<- get).cache.environments.find? (·.uuid == uuid.toText) with
      | some row => pure ((((row.accounts.find? (·.1 == accountType)).map (·.2)).getD []).map (·.uuid))
      | none => pure []
    | none => pure (project.accountsOf accountType)
  match accounts.head? with
  | some a => pure a
  | none => exitWith ("No " ++ providerType ++ " account regsitered in environment")

/-- The cluster of a Nutanix account, which the server gives. -/
def accountCluster (account : String) : Build String := do
  let path := "api/nutanix/v3/accounts/" ++ account
  let outcome <- Http.Call.send { method := .get, endpoint := path }
  if let some err := outcome.error then raiseError err
  let res <- outcome.json
  let data <- entryAt (<- entryAt (<- entryAt res "status") "resources") "data"
  let clusters := match data with
    | .dict es => (dictGet? es "cluster_account_reference_list").getD (.list [])
    | _ => .list []
  let first <- match <- iterate clusters with
    | c :: _ => pure c
    | [] => exitWith ("No cluster found in ahv account (uuid='" ++ account ++ "')")
  pure (<- entryAt first "uuid").toText

/-- The fields of a machine of the server's list: its name, its id, its address and its
    addresses, which providers keep under different keys. -/
def machineFields (providerType : String) (resources : Value) :
    Build (Value × Value × Value × Value) := do
  let name <- entryAt resources "instance_name"
  let id <- entryAt resources (if providerType == "GCP_VM" then "id" else "instance_id")
  let address <- entryAt resources "address"
  match providerType with
  | "AHV_VM" => pure (name, id, address, <- entryAt resources "address_list")
  | "AWS_VM" => pure (name, id, address, <- entryAt resources "public_ip_address")
  | "AZURE_VM" =>
    let publicIps <- entryAt resources "public_ip_address"
    let privateIps <- entryAt resources "private_ip_address"
    if !publicIps.truthy && privateIps.truthy then pure (name, id, .list [privateIps], privateIps)
    else pure (name, id, address, publicIps)
  | "VMWARE_VM" => pure (name, id, address, <- entryAt resources "guest.ipAddress")
  | _ => pure (name, id, address, <- entryAt resources "natIP")

/-- A brownfield machine's compiled dictionary: the machine of the server that it names. -/
def compileBrownfieldVm (r : Runtime) (parents : List Entity) (e : Entity) : Build Doc := do
  let cdict <- compileGeneric r e
  let providerType := (cdict.field "provider").toText
  let name := cdict.field "instance_name"
  let addresses := cdict.field "address"
  let id := cdict.field "instance_id"
  let project <- References.currentProject
  let account <- brownfieldAccount r e parents providerType
  if !(["AHV_VM", "AWS_VM", "AZURE_VM", "VMWARE_VM", "GCP_VM"].contains providerType) then
    exitWith ("Support for " ++ providerType ++ " provider's brownfield vm not available")
  let shown := brownfieldProviderName providerType
  if providerType == "AHV_VM" && !id.truthy && !(name.truthy || addresses.truthy) then
    exitWith "One of 'instance_name' or 'ip_address' must be given."
  let listAccount <- if providerType == "AHV_VM" then accountCluster account else pure account
  let filter := "project_uuid==" ++ project.uuid ++ ";account_uuid==" ++ listAccount ++
    ";refresh_cache==True"
  let params := Value.dict [(.str "length", .int (brownfieldPageLength providerType)),
    (.str "offset", .int 0), (.str "filter", .str filter)]
  let path := "api/nutanix/v3/blueprints/brownfield_import/vms/list"
  let outcome <- Http.Call.send { method := .post, endpoint := path, payload := params }
  if let some err := outcome.error then raiseError err
  let res <- outcome.json
  let place := "account(uuid='" ++ account ++ "') and project(uuid='" ++ project.uuid ++ "')"
  if !(<- entryAt (<- entryAt res "metadata") "total_matches").truthy then
    exitWith ("No " ++ shown ++ " brownfield vms found on " ++ place)
  let mut found : Option Doc := none
  for entity in <- iterate (<- entryAt res "entities") do
    let resources <- entryAt (<- entryAt entity "status") "resources"
    let (vmName, vmId, vmAddress, vmAddresses) <- machineFields providerType resources
    if <- machineMatches vmName vmId (textItems vmAddresses) name id (textItems addresses) then
      if found.isSome then
        exitWith ("Multiple vms with same name (" ++ name.toText ++ ") found")
      let address := if addresses.truthy then addresses else vmAddress
      let platform : Doc <- if providerType == "AZURE_VM" then do
          pure [("platform_data", textDict [("resource_group", <- entryAt resources "resource_group")])]
        else pure []
      found := some ([("instance_name", vmName), ("instance_id", vmId), ("address", address)] ++
        platform)
  match found with
  | some d => pure d
  | none =>
    exitWith ("No " ++ shown ++ " brownfield vm with details (name='" ++ name.toText ++
      "', address='" ++ addresses.toText ++ "', id='" ++ id.toText ++ "') found on " ++ place)

/-- A brownfield deployment's compiled dictionary: a deployment of exactly one replica. -/
def compileBrownfieldDeployment (r : Runtime) (e : Entity) : Build Doc := do
  let d <- compileGeneric r e
  pure ((d.put "min_replicas" (.str "1")).put "max_replicas" (.str "1"))

end Blueprints.Kinds
