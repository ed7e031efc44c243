import Blueprints.Kinds.Substrate

namespace Blueprints.Kinds

open Library

def bytesPerGiB : Int := 1073741824

/-- The resource limits of a project's quotas: every quota but the number of vCPUs in bytes. -/
def resourceLimits (quotas : Value) : Build Value := do
  let entries <- match quotas with
    | .dict entries => pure entries
    | v => throw (v.noAttribute "items")
  let mut resources : List Value := []
  for (kind, limit) in entries do
    let limit <- if kind.isText "VCPUS" then pure limit else arith .mul limit (.int bytesPerGiB)
    resources := resources ++ [textDict [("limit", limit), ("resource_type", kind)]]
  pure (textDict [("resources", .list resources)])

/-- A project's compiled dictionary: the accounts, subnets and networks of its providers
    gathered, its quotas as resource limits. -/
def compileProject (r : Runtime) (e : Entity) : Build Doc := do
  let mut d <- compileGeneric r e
  let mut accounts : List Value := []
  let mut subnets : List Value := []
  let mut networks : List Value := []
  let mut defaultSubnet : Value := .dict []
  let providers := (d.field? "provider_list").getD (.list [])
  d := d.remove "provider_list"
  for provider in <- iterate providers do
    let data <- getDict r provider
    let entries := match data with
      | .dict entries => entries
      | _ => []
    if (<- attrOfValue r provider "type").isText "nutanix_pc" then
      if let some localList := dictGet? entries "subnet_reference_list" then
        subnets := subnets ++ (<- iterate localList)
      if let some externalList := dictGet? entries "external_network_list" then
        for network in <- iterate externalList do
          let network := match network with
            | .dict n => Value.dict (dictDrop n "kind")
            | v => v
          networks := networks ++ [network]
      if let some dflt := dictGet? entries "default_subnet_reference" then
        if ((dictGet? entries "subnet_reference_list").getD .none).truthy then
          defaultSubnet := dflt
    if let some account := dictGet? entries "account_reference" then
      accounts := accounts ++ [account]
  d := d.put "account_reference_list" (.list accounts)
  d := d.put "subnet_reference_list" (.list subnets)
  d := d.put "external_network_list" (.list networks)
  d := d.put "default_subnet_reference" defaultSubnet
  let quotas := d.field "quotas"
  d := d.remove "quotas"
  if quotas.truthy then d := d.put "resource_domain" (<- resourceLimits quotas)
  d := d.remove "environment_definition_list"
  if !(d.field "default_environment_reference").truthy then
    d := d.remove "default_environment_reference"
  if !(d.field "default_subnet_reference").truthy then d := d.remove "default_subnet_reference"
  pure d

end Blueprints.Kinds
