import Blueprints.Kinds.Core
import Blueprints.Value.Operators

namespace Blueprints.Library.Accounts

open Kinds

/-- The name of the account that hosts the local subnets. -/
def localAccount : String := "NTNX_LOCAL_AZ"

/-- An account provider with the given attributes. -/
def accountProvider (attrs : List (String × Value)) : Build Value := do
  pure (.entity (<- makeClass .accountProvider .none [] attrs))

/-- The first subnet of a list, or an empty reference when there is none. -/
def defaultSubnet (subnets : Value) : Build Value := do
  if !subnets.truthy then return .dict []
  match subnets with
  | .entity _ => throw (.missingKey "0")
  | v => subscript v (.int 0)

/-- A Nutanix provider of `account`: its subnets are local ones when the account is the host
    PC's own account, external networks otherwise. -/
def nutanix (r : Runtime) (account subnets : Value) : Build Value := do
  let name <- match account with
    | .entity _ => itemOf r account "name"
    | v => subscript v (.str "name")
  let hostPc := name.isText localAccount
  accountProvider [("type", .str "nutanix_pc"), ("account_reference", account),
    ("external_network_list", if hostPc then .list [] else subnets),
    ("subnet_reference_list", if hostPc then subnets else .list []),
    ("default_subnet_reference", <- defaultSubnet subnets)]

/-- A provider of the host PC's own account with local subnets. -/
def localNutanix (r : Runtime) (subnets : Value) : Build Value := do
  let account <- r.call (.builtin ["Ref.Account"]) [.str localAccount] []
  accountProvider [("type", .str "nutanix_pc"), ("account_reference", account),
    ("subnet_reference_list", subnets), ("default_subnet_reference", <- defaultSubnet subnets)]

/-- A provider of a remote Nutanix account with external networks. -/
def remoteNutanix (account subnets : Value) : Build Value := do
  accountProvider [("type", .str "nutanix_pc"), ("account_reference", account),
    ("external_network_list", subnets), ("default_subnet_reference", <- defaultSubnet subnets)]

/-- The account types of the providers that hold one account only, by class name. -/
def singleAccountTypes : List (String × String) :=
  [("Aws", "aws"), ("Azure", "azure"), ("Gcp", "gcp"), ("Vmware", "vmware"), ("K8s", "k8s"),
   ("Custom_Provider", "custom_provider")]

/-- The provider classes, by the names that paths resolve to. -/
def builtin? (r : Runtime) (name : String) : Option Builtin :=
  match name with
  | "Provider" => some (refusing "Provider.__new__" "'Provider' is not callable")
  | "Provider.Ntnx" =>
    some (ctor name [req "account", opt "subnets" (.list [])] fun b =>
      nutanix r (b.get "account") (b.get "subnets"))
  | "Provider.Ntnx.Local_Az" =>
    some (ctor name [opt "subnets" (.list [])] fun b => localNutanix r (b.get "subnets"))
  | "Provider.Ntnx.Remote_Az" =>
    some (ctor name [req "account", opt "subnets" (.list [])] fun b =>
      remoteNutanix (b.get "account") (b.get "subnets"))
  | _ =>
    match singleAccountTypes.find? (fun (cls, _) => name == "Provider." ++ cls) with
    | some (_, accountType) =>
      some (ctor name [req "account"] fun b =>
        accountProvider [("type", .str accountType), ("account_reference", b.get "account")])
    | none => none

/-- The members of `Provider` and of its Nutanix class. -/
def member? (owner attr : String) : Option String :=
  if owner == "Provider" && (attr == "Ntnx" || singleAccountTypes.any (·.1 == attr)) then
    some ("Provider." ++ attr)
  else if owner == "Provider.Ntnx" && (attr == "Local_Az" || attr == "Remote_Az") then
    some ("Provider.Ntnx." ++ attr)
  else none

/-- The names of the namespace that this module defines. -/
def names : List String := ["Provider"]

end Blueprints.Library.Accounts
