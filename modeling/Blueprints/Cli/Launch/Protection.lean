import Blueprints.Cli.Launch.Machine

namespace Blueprints.Cli

open Library Http Api Build

/-- The first item of a list that a test picks, if any. -/
def firstSuch (items : List Value) (test : Value -> Build Bool) : Build (Option Value) := do
  for item in items do
    if <- test item then return some item
  pure none

/-- A text in lower case, for a value that must be a text. -/
def lowerText (v : Value) : Build String := do pure (<- textFor v "lower").toLower

/-- The categories of a rule's filter as `family:value` pairs, each family with its first
    value. -/
def ruleCategories (rule : Value) : Build String := do
  let mut parts : List String := []
  for (family, values) in <- entriesOf (<- path! rule ["category_filter", "params"]) "items" do
    parts := parts ++ [family.toText ++ ":" ++ (<- subscript values (.int 0)).toText]
  pure (", ".intercalate parts)

/-- The cluster of a site of a protection policy. -/
def siteCluster (site : Value) : Build Value := do
  path! (<- subscript (<- path! site ["infra_inclusion_list", "cluster_references"]) (.int 0)) ["uuid"]

/-- The protection policy and rule that the user chooses for the snapshots of a snapshot
    configuration of an application profile. `policyUuid` and `ruleUuid` are those the
    configuration names; `policies` are the policies of the environment; `subnets` describe the
    subnets of the environment's Nutanix account, each with its cluster; `substrates` are the
    substrates of the blueprint. -/
def chooseProtection (policyUuid ruleUuid configUuid profile : Value) (policies : List Value)
    (subnets : List Value) (substrates : Value) : Build (Value × Value) := do
  let some config <- firstSuch (<- iterate (<- at! profile "snapshot_config_list"))
      (fun c => do pure ((<- at! c "uuid").equal configUuid))
    | throw (.missingAttribute "'CustomLogging' object has no attribute 'err'")
  let attrs <- subscript (<- at! config "attrs_list") (.int 0)
  let isLocal := (<- lowerText (<- at! attrs "snapshot_location_type")) == "local"
  let target <- at! attrs "target_any_local_reference"
  let deployment <- firstSuch (<- iterate (<- at! profile "deployment_create_list"))
    fun d => do pure ((<- at! d "uuid").equal (<- at! target "uuid"))
  let substrateRef <- match deployment with
    | some d => at! d "substrate_local_reference"
    | none => pure .none
  if !substrateRef.truthy then
    logError ("No deployment with uuid " ++ target.toText ++ " found under app profile " ++
      (<- at! profile "name").toText)
    throw (.exit ("Deployment " ++ target.toText ++ " not found"))
  let substrate <- firstSuch (<- iterate substrates)
    fun s => do pure ((<- at! s "uuid").equal (<- at! substrateRef "uuid"))
  let subnetUuid <- match substrate with
    | some s => do
      let nic <- subscript (<- path! s ["create_spec", "resources", "nic_list"]) (.int 0)
      path! nic ["subnet_reference", "uuid"]
    | none => pure .none
  if !subnetUuid.truthy then
    let substrateId <- at! substrateRef "uuid"
    logError ("No substrate " ++ (<- getOr substrateRef "name" (.str "")).toText ++
      " with uuid " ++ substrateId.toText ++ " found")
    throw (.exit ("Substrate " ++ substrateId.toText ++ " not found"))
  let mut defaultPolicy : Value := .str ""
  let mut offered : List (Value × Value) := []
  for policy in policies do
    let resources <- at! policy "resources"
    let ruleType <- lowerText (<- at! resources "rule_type")
    if (isLocal && ruleType != "remote") || (!isLocal && ruleType != "local") then
      offered := putValue offered (<- at! policy "name") policy
    let isDefault <- if !defaultPolicy.truthy then do pure (<- at! resources "is_default").truthy
      else pure false
    let named <- if isDefault then pure true else do pure (policyUuid.equal (<- at! policy "uuid"))
    if named then defaultPolicy <- at! policy "name"
  if offered.isEmpty then
    logError "No protection policy found under this project. Please add one from the UI"
    throw (.exit "No protection policy found")
  if !defaultPolicy.truthy || (lookupValue offered defaultPolicy).isNone then
    defaultPolicy := (offered.head?.map (·.1)).getD .none
  let configName <- at! config "name"
  echo ""
  echo "Choose from given choices: "
  for (name, _) in offered do echo ("\t" ++ name.repr)
  let selectedName <- askLike ("Protection Policy for " ++ configName.repr ++ " [" ++
    defaultPolicy.repr ++ "]") defaultPolicy
  let some selected := lookupValue offered selectedName
    | do
      logError ("Invalid value '" ++ selectedName.toText ++ "' for protection policy")
      throw (.exit "Invalid protection policy")
  let resources <- at! selected "resources"
  let sites <- at! resources "ordered_availability_site_list"
  let clusters <- subnets.filterM fun sc => do pure ((<- at! sc "subnet_uuid").equal subnetUuid)
  let some first := clusters.head?
    | throw (.unboundName "name 'target_subnet_reference' is not defined")
  let clusterUuid <- at! first "cluster_uuid"
  let mut clusterIndex : Int := -1
  for (site, i) in (<- iterate sites).zipIdx do
    if (<- siteCluster site).equal clusterUuid then
      clusterIndex := i
      break
  if clusterIndex < 0 then
    logError ("Unable to find cluster with uuid " ++ clusterUuid.toText ++
      " in protection policy " ++ selectedName.toText)
    throw (.exit "Cluster not found")
  let both := (<- lowerText (<- at! resources "rule_type")) == "both"
  let targetName (index : Value) : Build Value := do
    let uuid <- siteCluster (<- subscript sites index)
    let found <- firstSuch subnets fun sc => do pure ((<- at! sc "cluster_uuid").equal uuid)
    let name <- match found with
      | some sc => at! sc "cluster_name"
      | none => pure .none
    if !name.truthy then
      logError ("Unable to find the cluster with uuid " ++ uuid.toText)
      throw (.exit "Cluster not found")
    pure name
  let mut defaultRule : Int := 1
  let mut number : Int := 1
  let mut rules : List (Int × String × Value) := []
  for rule in <- iterate (<- at! resources "app_protection_rule_list") do
    let source <- at! rule "first_availability_site_index"
    if !source.equal (.int clusterIndex) then continue
    let mut expiry : Value := emptyDict
    let mut categories := ""
    let keepsLocal <- if both then do
        let second <- at! rule "second_availability_site_index"
        if isLocal && source.equal second then pure (some true)
        else if !isLocal && !source.equal second then pure (some false)
        else pure none
      else pure (some isLocal)
    match keepsLocal with
    | some true =>
      expiry <- path! rule ["local_snapshot_retention_policy", "snapshot_expiry_policy"]
    | some false =>
      categories <- ruleCategories rule
      expiry <- path! rule ["remote_snapshot_retention_policy", "snapshot_expiry_policy"]
    | none => pure ()
    if !expiry.truthy then continue
    let cluster <- targetName (<- at! rule "second_availability_site_index")
    if (<- at! rule "uuid").equal ruleUuid then defaultRule := number
    let label := toString number ++ ". Snapshot expires in " ++ (<- at! expiry "multiple").toText ++
      " " ++ (<- lowerText (<- at! expiry "interval_type")) ++ ". Target cluster: " ++
      cluster.toText ++ (if categories.isEmpty then "" else ". Categories: " ++ categories)
    rules := rules ++ [(number, label, rule)]
    number := number + 1
  if rules.isEmpty then
    logError ("No matching protection rules found under protection policy " ++
      selectedName.toText ++ ". Please add the rules using UI to continue")
    throw (.exit "No protection rules found")
  echo ""
  echo "Choose from given choices: "
  for (_, label, _) in rules do echo ("\t" ++ (Value.str label).repr)
  let picked <- askLike ("Protection Rule for " ++ configName.repr ++ " [" ++ toString defaultRule ++
    "]") (.int defaultRule)
  let chosen : Option (Int × String × Value) := match picked with
    | .int n => rules.find? fun r => r.1 == n
    | _ => none
  let some (_, _, rule) := chosen
    | do
      logError ("Invalid value '" ++ picked.toText ++ "' for protection rule")
      throw (Fault.exit "Invalid protection rule")
  pure (selected, rule)

end Blueprints.Cli
