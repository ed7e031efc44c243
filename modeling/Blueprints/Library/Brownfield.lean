import Blueprints.Library.Builtin

namespace Blueprints.Library.Brownfield

/-- The providers of brownfield machines, by the name of their constructor. -/
def providers : List (String × String) :=
  [("Ahv", "AHV_VM"), ("Aws", "AWS_VM"), ("Azure", "AZURE_VM"), ("Gcp", "GCP_VM"),
   ("Vmware", "VMWARE_VM")]

def machine (provider : String) (b : Bound) : Build Value := do
  pure (.entity (<- makeClass .brownfieldVm .none [] [("instance_name", b.get "instance_name"),
    ("address", b.get "ip_address"), ("instance_id", b.get "instance_id"),
    ("provider", .str provider)]))

/-- The constructor of machines of a provider. -/
def machineCtor (qualName provider : String) : Builtin :=
  ctor qualName [opt "instance_name" .none, opt "ip_address" (.list []), opt "instance_id" .none]
    (machine provider)

/-- The brownfield constructors, by the names that paths resolve to. -/
def builtin? (name : String) : Option Builtin :=
  if name == "Brownfield.Vm" then some (machineCtor name "AHV_VM")
  else match providers.find? (fun (c, _) => name == "Brownfield.Vm." ++ c) with
    | some (_, provider) => some (machineCtor name provider)
    | none => none

/-- The members of `Brownfield` and of its machine class that are constructors. -/
def member? (owner attr : String) : Option String :=
  if owner == "Brownfield" && attr == "Vm" then some "Brownfield.Vm"
  else if owner == "Brownfield.Vm" && providers.any (·.1 == attr) then some ("Brownfield.Vm." ++ attr)
  else none

/-- The names of the namespace that this module defines. -/
def names : List String := ["Brownfield"]

end Blueprints.Library.Brownfield
