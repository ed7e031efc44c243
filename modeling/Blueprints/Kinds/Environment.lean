import Blueprints.Kinds.Substrate

namespace Blueprints.Kinds

open Library Build

/-- The provider types of substrates, by the type of the accounts they run on. -/
def substrateTypeOfAccount (accountType : String) : Option String :=
  match accountType with
  | "aws" => some "AWS_VM"
  | "vmware" => some "VMWARE_VM"
  | "nutanix_pc" => some "AHV_VM"
  | "azure" => some "AZURE_VM"
  | "gcp" => some "GCP_VM"
  | _ => none

/-- A Nutanix provider's subnets: its local subnets and external networks as one list, each
    allowed on the provider's account by the project. -/
def nutanixSubnets (project : ProjectRow) (data : List (Value × Value)) (accountName accountUuid : Value) :
    Build (List (Value × Value)) := do
  let subnets <- arith .add ((dictGet? data "subnet_reference_list").getD (.list []))
    ((dictGet? data "external_network_list").getD (.list []))
  let data := dictPut (dictDrop (dictDrop data "subnet_reference_list") "external_network_list")
    "subnet_references" subnets
  let allowed := ((project.whitelistedSubnets.find? (fun (a, _) => accountUuid.isText a)).map
    (·.2)).getD []
  for sub in <- iterate subnets do
    let uuid <- subscript sub (.str "uuid")
    if !allowed.any (uuid.isText ·) then
      let name <- subscript sub (.str "name")
      exitWith ("Environment uses subnet " ++ name.toText ++ " for nutanix_pc account " ++
        accountName.toText ++ " which is not added to project " ++ project.name ++ ".")
  pure data

/-- One provider of an environment as a dictionary, once its account and subnets are found to
    be the project's. -/
def includedProvider (r : Runtime) (project : ProjectRow) (provider : Value) : Build Value := do
  let data <- getDict r provider
  let account <- subscript data (.str "account_reference")
  let accountName <- subscript account (.str "name")
  let accountUuid <- subscript account (.str "uuid")
  let infraType <- attrOfValue r provider "type"
  let held := project.accountsOf (textOf infraType)
  if !held.any (accountUuid.isText ·) then
    exitWith ("Environment uses " ++ infraType.toText ++ " account '" ++
      accountName.toText ++ "' which is not added to project " ++ project.name ++ ".")
  let .dict entries := data | pure data
  if !infraType.isText "nutanix_pc" then
    let dropped := ["subnet_reference_list", "external_network_list", "default_subnet_reference"]
    pure (.dict (dropped.foldl dictDrop entries))
  else
    pure (.dict (<- nutanixSubnets project entries accountName accountUuid))

/-- Refuses two substrates of one provider type for one operating system. -/
def checkDistinctSubstrates (r : Runtime) (substrates : List Value) : Build Unit := do
  let mut seen : List (Value × Value) := []
  for sub in substrates do
    let providerType <- attrOfValue r sub "provider_type"
    let osType <- attrOfValue r sub "os_type"
    if seen.any (fun (p, o) => p.equal providerType && o.equal osType) then
      exitWith ("Multiple substrates of provider_type '" ++ providerType.toText ++
        "' for os type '" ++ osType.toText ++ "' in an environment are not allowed.")
    seen := seen ++ [(providerType, osType)]

/-- The account each provider type of substrate uses: the account included for it. -/
def substrateAccounts (r : Runtime) (included : List Value) : Build (List (String × Value)) := do
  let mut accounts : List (String × Value) := []
  for row in included do
    let reference <- subscript row (.str "account_reference")
    let uuid <- match reference with
      | .dict entries => pure ((dictGet? entries "uuid").getD .none)
      | v => throw (v.noAttribute "get")
    let some account := (<- get).cache.accountById? (textOf uuid)
      | throw (.missingAttribute "'NoneType' object has no attribute 'get'")
    let some substrateType := substrateTypeOfAccount account.providerType
      | throw (.missingKey ("'" ++ account.providerType ++ "'"))
    let reference <- r.call (.builtin ["Ref.Account"]) [.str account.name] []
    accounts := upsert accounts substrateType reference
  pure accounts

/-- An environment's compiled dictionary: its providers checked against the project and given as
    dictionaries, its substrates distinct and set to use the included accounts. -/
def compileEnvironment (r : Runtime) (e : Entity) : Build Doc := do
  let mut d <- compileGeneric r e
  let substrates <- iterate ((d.field? "substrate_definition_list").getD (.list []))
  let project <- References.currentProject
  let mut included : List Value := []
  for provider in <- iterate ((d.field? "infra_inclusion_list").getD (.list [])) do
    included := included ++ [<- includedProvider r project provider]
  if !included.isEmpty then d := d.put "infra_inclusion_list" (.list included)
  checkDistinctSubstrates r substrates
  let accounts <- substrateAccounts r included
  if accounts.isEmpty then return d
  let mut assigned : List Value := []
  for sub in substrates do
    let providerType <- attrOfValue r sub "provider_type"
    let some account := accounts.find? (fun (t, _) => providerType.isText t)
      | throw (.missingKey providerType.repr)
    match sub with
    | .entity se => assigned := assigned ++ [.entity (<- se.set "account" account.2)]
    | v => assigned := assigned ++ [v]
  if d.any (·.1 == "substrate_definition_list") then
    d := d.put "substrate_definition_list" (.list assigned)
  pure d

end Blueprints.Kinds
