import Blueprints.Schema.Providers
import Blueprints.Schema.Validate

namespace Blueprints

/-- The platforms that substrates can run on. -/
inductive Provider where
  | ahv | aws | azure | gcp | vmware | existing | k8s
deriving DecidableEq, Repr, Inhabited

namespace Provider

/-- Every provider, in the order in which they are registered. -/
def all : List Provider := [.ahv, .aws, .azure, .existing, .gcp, .k8s, .vmware]

def name : Provider -> String
  | .ahv => "AHV_VM" | .aws => "AWS_VM" | .azure => "AZURE_VM" | .gcp => "GCP_VM"
  | .vmware => "VMWARE_VM" | .existing => "EXISTING_VM" | .k8s => "K8S_POD"

def ofName? (n : String) : Option Provider := all.find? (·.name == n)

/-- The schema of a provider's specifications, with the table of the schemas it refers to. -/
def specSchema : Provider -> Schema × SchemaTable
  | .ahv => (Schema.Providers.ahvVmProviderSpec, Schema.Providers.ahvVmTable)
  | .aws => (Schema.Providers.awsVmProviderSpec, Schema.Providers.awsVmTable)
  | .azure => (Schema.Providers.azureVmProviderSpec, Schema.Providers.azureVmTable)
  | .gcp => (Schema.Providers.gcpVmProviderSpec, Schema.Providers.gcpVmTable)
  | .vmware => (Schema.Providers.vmwareVmProviderSpec, Schema.Providers.vmwareVmTable)
  | .existing => (Schema.Providers.existingVmProviderSpec, Schema.Providers.existingVmTable)
  | .k8s => (Schema.Providers.k8sPodProviderSpec, Schema.Providers.k8sPodTable)

/-- Checks a specification, filling in defaults; a pod specification is taken as it is. -/
def validateSpec (p : Provider) (spec : Value) : Except String Value :=
  match p with
  | .k8s => .ok spec
  | _ => let (s, t) := p.specSchema; Schema.validate t s spec

end Provider

end Blueprints
