import Blueprints.Cli.Listings

namespace Blueprints.Cli

open Library Http Build Text Api

def providerAccounts : Api.Resource := .named "AccountsAPI" "accounts"

/-- The account of a name, as the server reads it; no account or several of that name are an
    error. -/
def accountNamed (name : String) : Build Value := do
  let listed <- providerAccounts.list (dictOf [("filter", .str ("name==" ++ name))])
  let response <- listed.jsonOrRaise
  let entities <- getOr response "entities" .none
  if !entities.truthy then throw (.failure ("No account having name " ++ name ++ " found"))
  if (<- lengthOf entities) != 1 then
    throw (.failure ("More than one account found - " ++ entities.toText))
  logInfo (name ++ " found ")
  let uuid <- path! (<- subscript entities (.int 0)) ["metadata", "uuid"]
  logInfo "Fetching account details"
  (<- providerAccounts.read uuid).jsonOrRaise

def deleteAccounts (values : ParamValues) : Build Unit := do
  let _ <- serverSettings
  for name in textsValue values "account_names" do
    let account <- accountNamed name
    let outcome <- providerAccounts.delete (<- path! account ["metadata", "uuid"])
    if let some err := outcome.error then raiseError err
    logInfo ("Account " ++ name ++ " deleted")
  logInfo "Updating accounts cache ..."
  syncTables [.account, .image, .subnet]
  logInfo "[Done]"

/-- Whether the server's showback is enabled; a server that cannot tell ends the command. -/
def showbackEnabled : Build Bool := do
  let outcome <- Call.send { method := .get, endpoint := Api.root ++ "/app_showback/status" }
  outcome.exitOnError
  pure ((<- at! (<- outcome.json) "current_status").equal (.str "enabled"))

/-- Writes the costs of the resources of a cluster in the states in which it is on, from the
    first of its price items. -/
def describeCosts (priceItems : Value) : Build Unit := do
  for cost in <- iterate (<- at! (<- subscript priceItems (.int 0)) "state_cost_list") do
    if (<- at! cost "state").equal (.str "ON") then
      for item in <- iterate (<- at! cost "cost_list") do
        let name <- at! item "name"
        let value <- at! item "value"
        echo ("\t" ++ name.toText.map Text.upper ++ ": " ++ value.toText)

/-- Writes whether showback is enabled, and then the costs of the price items read. -/
def describeShowback (priceItems : Build Value) : Build Unit := do
  if <- showbackEnabled then
    let items <- priceItems
    echo "Showback Status: Enabled"
    echo "Resource Usage Costs:\n----------------------"
    describeCosts items
  else echo "Showback Status: Not Enabled"

/-- Writes a Prism Element account: its cluster. -/
def describeElementAccount (data : Value) : Build Unit := do
  let uuid <- at! data "cluster_uuid"
  let name <- at! data "cluster_name"
  echo ("Cluster Id: " ++ uuid.toText)
  echo ("Cluster Name: " ++ name.toText)

/-- Writes a Prism Central account: where it is, and each cluster it manages with the costs of
    the cluster's resources. -/
def describeCentralAccount (data : Value) : Build Unit := do
  let settings <- serverSettings
  let port <- at! data "port"
  let isHost <- at! data "host_pc"
  let address <- if isHost.truthy then pure (.str (settings.serverValue "pc_ip"))
    else at! data "server"
  echo ("Is Host PC: " ++ isHost.toText)
  echo ("PC IP: " ++ address.toText)
  echo ("PC Port: " ++ port.toText)
  let clusters <- at! data "cluster_account_reference_list"
  if clusters.truthy then echo "\nCluster Accounts:\n-----------------"
  for (cluster, i) in (<- iterate clusters).zipIdx do
    let clusterData <- path! cluster ["resources", "data"]
    let name <- at! clusterData "cluster_name"
    let uuid <- at! clusterData "cluster_uuid"
    echo ("\n" ++ toString (i + 1) ++ ". " ++ name.toText ++ " (uuid: " ++ uuid.toText ++
      ")\tPE Account UUID: " ++ (<- at! cluster "uuid").toText)
    describeShowback (do getOr (<- at! cluster "resources") "price_items" (.list []))

/-- Writes an AWS account: its key, its regions and the public images of each region. -/
def describeAwsAccount (data : Value) : Build Unit := do
  echo ("Access Key ID: " ++ (<- at! data "access_key_id").toText)
  let regions <- iterate (<- at! data "regions")
  echo "\nRegions:\n-------------- "
  for (region, i) in regions.zipIdx do
    echo ("\t" ++ toString (i + 1) ++ ". " ++ (<- at! region "name").toText)
  echo "\nPublic Images:\n-------------- "
  let mut anyImage := false
  for region in regions do
    let images <- getOr region "images" .none
    if images.truthy then
      echo ("\nRegion: " ++ (<- at! region "name").toText)
      echo "Images: "
      for (image, i) in (<- iterate images).zipIdx do
        anyImage := true
        echo ("\t" ++ toString (i + 1) ++ ". " ++ (<- at! image "name").toText)
  if !anyImage then echo "\tNo images provided"

def describeVmwareAccount (data : Value) : Build Unit := do
  echo ("Server: " ++ (<- at! data "server").toText)
  echo ("Username: " ++ (<- at! data "username").toText)
  echo ("Port: " ++ (<- at! data "port").toText)
  echo ("Datacenter: " ++ (<- at! data "datacenter").toText)

/-- Writes a GCP account: its project, regions, the public images it uses by the names the
    server lists for them, and its GKE settings. -/
def describeGcpAccount (data : Value) (account : Value) : Build Unit := do
  echo ("Project Id: " ++ (<- at! data "project_id").toText)
  echo ("Client Email: " ++ (<- at! data "client_email").toText)
  echo ("Token URI: " ++ (<- at! data "token_uri").toText)
  echo "\nRegions:\n--------------\n"
  let regions <- at! data "regions"
  for (region, i) in (<- iterate regions).zipIdx do
    echo ("\t" ++ toString (i + 1) ++ ". " ++ (<- at! region "name").toText)
  if !regions.truthy then echo "\tNo regions provided"
  echo "\nPublic Images:\n--------------\n"
  let images <- at! data "public_images"
  let listed <- (<- (Api.Resource.named "ResourceAPI" "gcp/v1/images").list (dictOf
    [("filter", .str ("account_uuid==" ++ account.toText ++ ";public_only==true"))])).jsonOrRaise
  let mut names : List (Value × Value) := []
  for image in <- iterate (<- at! listed "entities") do
    let name <- path! image ["status", "name"]
    let link <- path! image ["status", "resources", "selfLink"]
    names := (names.filter fun (k, _) => !k.equal link) ++ [(link, name)]
  for (image, i) in (<- iterate images).zipIdx do
    let link <- at! image "selfLink"
    if let some (_, name) := names.find? (·.1.equal link) then
      if name.truthy then echo ("\t" ++ toString (i + 1) ++ ". " ++ name.toText)
  if !regions.truthy then echo "No regions provided"
  echo "\nGKE Details:\n--------------\n"
  let gke <- at! data "gke_config"
  if !gke.truthy then echo "\tGKE not enabled"
  else
    echo ("Port: " ++ (<- at! gke "port").toText)
    echo ("Server: " ++ (<- at! gke "server").toText)

def describeAzureAccount (data : Value) : Build Unit := do
  echo ("Subscription ID: " ++ (<- at! data "subscription_id").toText)
  echo ("Tenant ID: " ++ (<- at! data "tenant_id").toText)
  echo ("Client ID: " ++ (<- at! data "client_id").toText)
  echo ("Cloud Environment: " ++ (<- at! data "cloud_environment").toText)

/-- The names of the ways a Kubernetes account authenticates. -/
def kubernetesAuthentication : List (String × String) :=
  [("basic", "Basic Auth"), ("client_certificate", "Client Certificate"),
   ("ca_certificate", "CA Certificate")]

/-- Writes a Kubernetes account: its server and how it authenticates. -/
def describeKubernetesAccount (data : Value) : Build Unit := do
  echo ("Server IP: " ++ (<- at! data "server").toText)
  echo ("Port: " ++ (<- at! data "port").toText)
  print "Authentication Type: "
  let kind <- path! data ["authentication", "type"]
  let some (_, shown) := kubernetesAuthentication.find? fun (k, _) => kind.equal (.str k)
    | throw (.missingKey kind.repr)
  echo shown

/-- Writes an account of a custom provider: its variables, and those of the provider's resource
    type, which exactly one resource type of the server must have the provider's name for. -/
def describeCustomAccount (data : Value) : Build Unit := do
  let provider <- path! data ["provider_reference", "name"]
  echo ("Provider Name: " ++ provider.toText)
  echo "Account Variables"
  for v in <- iterate (<- at! data "variable_list") do
    echo ("\t" ++ (<- at! v "name").toText)
  let outcome <- (Api.Resource.named "ResourceTypeAPI" "resource_types" true).list
    (dictOf [("filter", .str ("name==" ++ provider.toText))])
  outcome.exitOnError
  let entities <- getOr (<- outcome.json) "entities" .none
  if !entities.truthy then
    exitWith ("No account having name " ++ provider.toText ++ " found")
  if (<- lengthOf entities) != 1 then
    exitWith ("More than one account found - " ++ entities.toText)
  logInfo (provider.toText ++ " found ")
  let resources <- path! (<- subscript entities (.int 0)) ["status", "resources"]
  echo "Resource Type Schema Variables"
  for v in <- iterate (<- at! resources "schema_list") do
    echo ("\t" ++ (<- at! v "name").toText)
  echo "Resource Type Variables List"
  for v in <- iterate (<- at! resources "variable_list") do
    echo ("\t" ++ (<- at! v "name").toText)

def describeAccount (values : ParamValues) : Build Unit := do
  let _ <- serverSettings
  let name := textValue values "account_name"
  let account <- accountNamed name
  let resources <- path! account ["status", "resources"]
  let kind <- at! resources "type"
  let uuid <- path! account ["metadata", "uuid"]
  echo "\n----Account Summary----\n"
  print "\t\t"
  echo "GENERAL DETAILS\n"
  echo ("Name: " ++ name ++ " (uuid: " ++ uuid.toText ++ ")")
  echo ("Status: " ++ (<- at! resources "state").toText)
  let kindText <- match kind with
    | .str s => pure s
    | v => throw (v.noAttribute "upper")
  echo ("Account Type: " ++ kindText.map Text.upper)
  echo ("Owner: " ++ (<- path! account ["metadata", "owner_reference", "name"]).toText)
  let created <- secondsOf (<- path! account ["metadata", "creation_time"])
  echo ("Created: " ++ ctime created ++ " (" ++ ago created ++ ")")
  let data <- at! resources "data"
  print "\n\t\t"
  echo "PROVIDER SPECIFIC DETAILS\n"
  if kindText == "nutanix" then describeElementAccount data
  match kindText with
  | "nutanix_pc" => describeCentralAccount data
  | "aws" => describeAwsAccount data
  | "vmware" => describeVmwareAccount data
  | "gcp" => describeGcpAccount data uuid
  | "k8s" => describeKubernetesAccount data
  | "azure" => describeAzureAccount data
  | "custom_provider" => describeCustomAccount data
  | _ => echo "Provider details not present"
  if kindText == "nutanix" || kindText == "vmware" then
    describeShowback (at! resources "price_items")
  echo ""

end Blueprints.Cli
