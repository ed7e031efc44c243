import Blueprints.Store.Table
import Blueprints.Api.Resource

namespace Blueprints.CacheSync

open Api Http Library Build Call

def store (f : Cache -> Cache) : Build Unit :=
  modify fun s => { s with cache := f s.cache }

def api (name : String) (calm : Bool := false) : Resource := Resource.named "ResourceAPI" name calm

/-- The text entry of a dictionary, or `dflt` when it has none or is not a dictionary. -/
def textAt (d : Value) (key : String) (dflt : String := "") : String :=
  match d with
  | .dict es => ((dictGet? es key).map Value.toText).getD dflt
  | _ => dflt

def entryAt (d : Value) (key : String) (dflt : Value := .dict []) : Value :=
  match d with
  | .dict es => (dictGet? es key).getD dflt
  | _ => dflt

/-- The failure that a call raises on its error: `[code] - error`. -/
def errorText (err : Value) : Build String := do
  pure ("[" ++ (<- at! err "code").toText ++ "] - " ++ (<- at! err "error").toText)

/-- The uuids of the verified Nutanix PC accounts, by name. -/
def pcAccounts : Build (List Value) := do
  let params := dictOf [("length", .int 250), ("filter", .str "state==VERIFIED;type==nutanix_pc")]
  match <- (api "accounts").nameUuidMap params with
  | .dict es => pure (es.map (·.2))
  | _ => pure []

def accountFilter (account : Value) : Value := .str ("account_uuid==" ++ account.toText)

/-- The subnets of a Nutanix PC account, or the failure of listing them. -/
def accountSubnets (account : Value) : Build (Except String (List Value)) := do
  let params := dictOf [("length", .int 250), ("offset", .int 0), ("filter", accountFilter account)]
  match <- (api "nutanix/v1/subnets").listAll (.int 250) params true with
  | .tuple [entities, err] =>
    if err.truthy then return .error (<- errorText err)
    pure (.ok (<- iterate entities))
  | other => pure (.ok (<- iterate other))

/-- The disk images of a Nutanix PC account, or the failure of listing them. -/
def accountImages (account : Value) : Build (Except String (List Value)) := do
  let params := dictOf [("length", .int 250), ("offset", .int 0), ("filter", accountFilter account)]
  let outcome <- (api "nutanix/v1/images").list params true
  if let some err := outcome.error then return .error (<- errorText err)
  let res <- outcome.json
  pure (.ok (<- iterate (entryAt res "entities" (.list []))))

/-- Copies the subnets of the PC accounts. -/
def syncSubnets : Build Unit := do
  store fun c => CacheTable.clear c .subnet
  for account in <- pcAccounts do
    match <- accountSubnets account with
    | .error _ =>
      logWarning ("Unable to fetch subnets for Nutanix_PC Account(uuid=" ++ account.toText ++ ")")
    | .ok entities =>
      for entity in entities do
        let name := (<- path! entity ["status", "name"]).toText
        let uuid := (<- path! entity ["metadata", "uuid"]).toText
        let cluster := entryAt (<- at! entity "status") "cluster_reference"
        if !cluster.truthy then continue
        let clusterName := textAt cluster "name"
        if clusterName.isEmpty then
          exitWith ("cluster not supplied for subnet " ++ name)
        let clusterUuid := textAt cluster "uuid"
        let accountUuid := account.toText
        let row : SubnetRow := { name, uuid, cluster := clusterName, accountUuid, clusterUuid }
        store fun c => { c with subnets := c.subnets ++ [row] }

/-- Copies the disk images of the PC accounts. -/
def syncImages : Build Unit := do
  store fun c => CacheTable.clear c .image
  for account in <- pcAccounts do
    match <- accountImages account with
    | .error _ =>
      logWarning ("Unable to fetch images for Nutanix_PC Account(uuid=" ++ account.toText ++ ")")
    | .ok entities =>
      for entity in entities do
        let name := (<- path! entity ["status", "name"]).toText
        let uuid := (<- path! entity ["metadata", "uuid"]).toText
        let imageType := textAt (<- path! entity ["status", "resources"]) "image_type"
        let row : ImageRow := { name, uuid, imageType, accountUuid := account.toText }
        store fun c => { c with images := c.images ++ [row] }

/-- The clusters that a PC account manages, by cluster account uuid, with their names. -/
def managedClusters (data : Value) : Build (List (String × String)) := do
  let refs <- iterate (entryAt data "cluster_account_reference_list" (.list []))
  refs.foldlM (fun acc ref => do
    let uuid := (<- at! ref "uuid").toText
    let name := textAt (entryAt (entryAt ref "resources") "data") "cluster_name"
    pure ((acc.filter (·.1 != uuid)) ++ [(uuid, name)])) []

/-- Copies the active and verified accounts. -/
def syncAccounts : Build Unit := do
  store fun c => CacheTable.clear c .account
  let params := dictOf [("length", .int 250), ("filter", .str "(state==ACTIVE,state==VERIFIED)")]
  let res <- (<- (api "accounts").list params).jsonOrRaise
  for entity in <- iterate (entryAt res "entities" (.list [])) do
    let resources <- path! entity ["status", "resources"]
    let providerType := (<- at! resources "type").toText
    let name := (<- path! entity ["status", "name"]).toText
    let uuid := (<- path! entity ["metadata", "uuid"]).toText
    let state := (<- at! resources "state").toText
    let mut row : AccountRow := { name, uuid, providerType, state }
    if providerType == "nutanix_pc" then
      let isHost := (<- path! resources ["data", "host_pc"]).truthy
      row := { row with isHost, clusters := <- managedClusters (entryAt resources "data") }
    else if providerType == "nutanix" then
      row := { row with pcAccount := some (<- path! resources ["data", "pc_account_uuid"]).toText }
    if providerType.isEmpty then
      exitWith ("Provider type not supplied for fetching user " ++ name)
    store fun c => { c with accounts := c.accounts ++ [row] }

/-- The provider type of each account the server has, by uuid. -/
def accountTypes : Build (List (String × String)) := do
  let params := dictOf [("length", .int 200), ("offset", .int 0),
    ("filter", .str "state!=DELETED;type!=nutanix")]
  let listed <- (api "accounts").listAll (.int 250) params true
  let (entities, err) := match listed with
    | .tuple [es, err] => (es, err)
    | v => (v, .none)
  if err.truthy then throw (.failure err.toText)
  let mut types : List (String × String) := []
  for e in <- iterate entities do
    let uuid := (<- path! e ["metadata", "uuid"]).toText
    let kind := (<- path! e ["status", "resources", "type"]).toText
    types := (types.filter (·.1 != uuid)) ++ [(uuid, kind)]
  pure types

/-- A list with a value added under a key, the key keeping its first place. -/
def pushUnder {α : Type} (groups : List (String × List α)) (key : String) (x : α) :
    List (String × List α) :=
  if groups.any (·.1 == key) then groups.map fun (k, xs) => if k == key then (k, xs ++ [x]) else (k, xs)
  else groups ++ [(key, [x])]

/-- Copies the projects, with their accounts and allowed subnets. -/
def syncProjects : Build Unit := do
  store fun c => CacheTable.clear c .project
  let types <- accountTypes
  let mut pcSubnets : List (String × List String) :=
    (types.filter (·.2 == "nutanix_pc")).map fun (u, _) => (u, [])
  for (account, _) in pcSubnets do
    match <- accountSubnets (.str account) with
    | .error msg =>
      logError msg
      logWarning ("Unable to fetch subnets for Nutanix_PC Account(uuid=" ++ account ++ ")")
    | .ok rows =>
      let uuids <- rows.mapM fun row => do pure (<- path! row ["metadata", "uuid"]).toText
      pcSubnets := pcSubnets.map fun (a, us) => if a == account then (a, us ++ uuids) else (a, us)
  let listed <- (api "projects").listAll (.int 250) .none true
  let entities <- match listed with
    | .tuple [es, err] =>
      if err.truthy then
        logError err.toText
      iterate es
    | v => iterate v
  for entity in entities do
    let name := (<- path! entity ["status", "name"]).toText
    let uuid := (<- path! entity ["metadata", "uuid"]).toText
    let accountRefs <- iterate (entryAt (<- path! entity ["status", "resources"])
      "account_reference_list" (.list []))
    let specResources := entryAt (<- at! entity "spec") "resources"
    let subnetRefs := (<- iterate (entryAt specResources "external_network_list" (.list []))) ++
      (<- iterate (entryAt specResources "subnet_reference_list" (.list [])))
    let subnetUuids <- subnetRefs.mapM fun ref => do pure (<- at! ref "uuid").toText
    let mut accounts : List (String × List String) := []
    let mut allowed : List (String × List String) := []
    for ref in accountRefs do
      let account := (<- at! ref "uuid").toText
      let some (_, kind) := types.find? (·.1 == account) | continue
      accounts := pushUnder accounts kind account
      if kind == "nutanix_pc" then
        let known := ((pcSubnets.find? (·.1 == account)).map (·.2)).getD []
        let both := (subnetUuids.filter known.contains).eraseDups
        allowed := (allowed.filter (·.1 != account)) ++ [(account, both)]
    let row : ProjectRow := { name, uuid, accounts, whitelistedSubnets := allowed }
    store fun c => { c with projects := c.projects ++ [row] }

/-- Copies the environments of projects, with the accounts of their infrastructure. -/
def syncEnvironments : Build Unit := do
  store fun c => CacheTable.clear c .environment
  let entities <- iterate (<- (api "environments").listAll (.int 250) .none false)
  for entity in entities do
    let name := (<- path! entity ["status", "name"]).toText
    let uuid := (<- path! entity ["metadata", "uuid"]).toText
    let projectUuid := textAt (entryAt (<- at! entity "metadata") "project_reference") "uuid"
    if projectUuid.isEmpty then continue
    let infra <- iterate (entryAt (<- path! entity ["status", "resources"]) "infra_inclusion_list"
      (.list []))
    let mut accounts : List (String × List EnvironmentAccount) := []
    for item in infra do
      let kind := (<- at! item "type").toText
      let ref <- at! item "account_reference"
      let refUuid := (<- at! ref "uuid").toText
      let refName := (<- at! ref "name").toText
      let mut account : EnvironmentAccount := { uuid := refUuid, name := refName }
      if kind == "nutanix_pc" then
        let subnets <- iterate (entryAt item "subnet_references" (.list []))
        let uuids <- subnets.mapM fun s => do pure (<- at! s "uuid").toText
        account := { account with subnetUuids := some uuids }
      accounts := pushUnder accounts kind account
    let row : EnvironmentRow := { name, uuid, projectUuid, accounts }
    store fun c => { c with environments := c.environments ++ [row] }

/-- The entities of one long page of a collection, or the failure that its error raises. -/
def firstThousand (collection : String) : Build (List Value) := do
  let res <- (<- (api collection).list (dictOf [("length", .int 1000)])).jsonOrRaise
  iterate (<- at! res "entities")

/-- The name and uuid of an entity of a list. -/
def nameAndUuid (entity : Value) : Build NamedRow := do
  let name := (<- path! entity ["status", "name"]).toText
  let uuid := (<- path! entity ["metadata", "uuid"]).toText
  pure { name, uuid }

/-- A value, or the empty dictionary when it is falsy. -/
def orEmpty (v : Value) : Value := if v.truthy then v else .dict []

/-- Copies the users, each with its directory service. -/
def syncUsers : Build Unit := do
  store fun c => CacheTable.clear c .user
  for entity in <- firstThousand "users" do
    let ⟨name, uuid⟩ <- nameAndUuid entity
    let resources <- path! entity ["status", "resources"]
    let displayName := (orEmpty (entryAt resources "display_name" .none)).toText
    let displayName := if (entryAt resources "display_name" .none).truthy then displayName else ""
    let directoryUser := orEmpty (entryAt resources "directory_service_user" .none)
    let directoryRef := orEmpty (entryAt directoryUser "directory_service_reference" .none)
    let directory := textAt directoryRef "name" "LOCAL"
    if directory.isEmpty then continue
    store fun c => { c with users := c.users ++ [{ name, displayName, uuid, directory }] }

/-- Copies the complete user groups of directory services. -/
def syncUserGroups : Build Unit := do
  store fun c => CacheTable.clear c .userGroup
  for entity in <- firstThousand "user_groups" do
    if !(<- path! entity ["status", "state"]).isText "COMPLETE" then continue
    let resources <- path! entity ["status", "resources"]
    let directoryGroup := orEmpty (entryAt resources "directory_service_user_group" .none)
    let distinguished := entryAt directoryGroup "distinguished_name" .none
    let directoryRef := orEmpty (entryAt directoryGroup "directory_service_reference" .none)
    let directory := textAt directoryRef "name"
    let displayName := textAt resources "display_name"
    let uuid := (<- path! entity ["metadata", "uuid"]).toText
    if directory.isEmpty || !distinguished.truthy then continue
    let row : PrincipalRow := { name := distinguished.toText, displayName, uuid, directory }
    store fun c => { c with userGroups := c.userGroups ++ [row] }

def syncRoles : Build Unit := do
  store fun c => CacheTable.clear c .role
  for entity in <- firstThousand "roles" do
    let row <- nameAndUuid entity
    store fun c => { c with roles := c.roles ++ [row] }

def syncDirectoryServices : Build Unit := do
  store fun c => CacheTable.clear c .directoryService
  for entity in <- firstThousand "directory_services" do
    let row <- nameAndUuid entity
    store fun c => { c with directoryServices := c.directoryServices ++ [row] }

def syncNetworkFunctionChains : Build Unit := do
  store fun c => CacheTable.clear c .networkFunctionChain
  for entity in <- firstThousand "network_function_chains" do
    let row <- nameAndUuid entity
    store fun c => { c with networkFunctionChains := c.networkFunctionChains ++ [row] }

/-- The kind and expiry of a protection rule: a remote rule first, then a local one. -/
def ruleKind (rule : Value) : String × Nat :=
  let expiryOf (policy : Value) : Nat :=
    match entryAt (entryAt policy "snapshot_expiry_policy") "multiple" (.int 0) with
    | .int n => n.toNat
    | _ => 0
  let remote := entryAt rule "remote_snapshot_retention_policy"
  let localPolicy := entryAt rule "local_snapshot_retention_policy"
  if remote.truthy then ("Remote", expiryOf remote)
  else if localPolicy.truthy then ("Local", expiryOf localPolicy)
  else ("", 0)

/-- Copies the protection policies, one row a rule. -/
def syncProtectionPolicies : Build Unit := do
  store fun c => CacheTable.clear c .protectionPolicy
  let entities <- iterate (<- (api "app_protection_policies" true).listAll (.int 250) .none false)
  for entity in entities do
    let ⟨name, uuid⟩ <- nameAndUuid entity
    let projectName := textAt (entryAt (<- at! entity "metadata") "project_reference") "name"
    for rule in <- iterate (<- path! entity ["status", "resources", "app_protection_rule_list"]) do
      let (ruleType, ruleExpiry) := ruleKind rule
      let ruleName := (<- at! rule "name").toText
      let ruleUuid := (<- at! rule "uuid").toText
      if ruleUuid.isEmpty then
        logError ("Protection Rule UUID not supplied for Protection Policy " ++ name)
        throw (.exit "Missing rule_uuid for protection policy")
      let row : PolicyRow := { name, uuid, ruleName, ruleUuid, ruleExpiry, ruleType, projectName }
      store fun c => { c with protectionPolicies := c.protectionPolicies ++ [row] }

def versionPath : String := "apps/version"

/-- The path of the version of the central management server. -/
def centralVersionPath : String := "PrismGateway/services/rest/v1/cluster/version"

/-- The text of the server's version; a server that does not give it ends the command with its
    error. -/
def serverVersion : Build String := do
  let outcome <- send { method := .get, endpoint := versionPath }
  if let some err := outcome.error then
    logError "Failed to get version"
    throw (.exit (<- at! err "error").toText)
  match outcome.response with
  | some r => pure r.text
  | none => pure ""

/-- Copies the versions of the servers: the version the cache is read with from then on. -/
def syncVersions : Build Unit := do
  let outcome <- send { method := .get, endpoint := versionPath }
  let version := match outcome.response with
    | some r => r.text
    | none => ""
  modify fun s => { s with version }
  let warning := "Could not get PC Version"
  let _ <- send { method := .get, endpoint := centralVersionPath, ignoreError := true, warning }

end Blueprints.CacheSync

namespace Blueprints.CacheTable

def sync : CacheTable -> Build Unit
  | .subnet => CacheSync.syncSubnets
  | .image => CacheSync.syncImages
  | .account => CacheSync.syncAccounts
  | .project => CacheSync.syncProjects
  | .environment => CacheSync.syncEnvironments
  | .user => CacheSync.syncUsers
  | .role => CacheSync.syncRoles
  | .directoryService => CacheSync.syncDirectoryServices
  | .userGroup => CacheSync.syncUserGroups
  | .networkFunctionChain => CacheSync.syncNetworkFunctionChains
  | .protectionPolicy => CacheSync.syncProtectionPolicies

end Blueprints.CacheTable
