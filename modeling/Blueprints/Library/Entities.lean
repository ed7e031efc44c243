import Blueprints.Provider.Basic
import Blueprints.Library.Files

namespace Blueprints.Library.Entities

/-- A constructor that makes a class of kind `k` from keyword arguments; `dropsName` keeps the
    `name` argument out of the attributes. -/
def fromKeywords (qualName : String) (k : Kind) (dropsName : Bool := false) : Builtin where
  sig := { qualName, params := [], varKw := true }
  run b := do
    let name := (b.extra? "name").getD .none
    let attrs := if dropsName then b.extra.filter (·.1 != "name") else b.extra
    pure (.entity (<- makeClass k name [] attrs))

/-- A provider specification holding `spec`. -/
def providerSpec (spec : Value) : Value := .object "_ProviderSpec" [("spec", spec)]

/-- The specification of a provider specification read from class `e`: checked, with defaults
    filled in, against the provider that the class names. -/
def readProviderSpec (e : Entity) (fields : List (String × Value)) : Build Value := do
  let spec := ((fields.find? (·.1 == "spec")).map (·.2)).getD .none
  let typeName := match e.lookup? "provider_type" with
    | some (.str s) => s
    | _ => ""
  let some p := Provider.ofName? typeName | throw (.failure "provider not registered")
  match p.validateSpec spec with
  | .ok v => pure v
  | .error m => throw (.invalid m)

def strOf (v : Value) : Value := .str v.toText

/-- The value of `d.get(key, default)` for a value that must be a dictionary. -/
def getOr (d : Value) (key : String) (dflt : Value) : Build Value :=
  match d with
  | .dict entries => pure ((dictGet? entries key).getD dflt)
  | v => throw (v.noAttribute "get")

/-- The names of the sections of a downloadable image's configuration. -/
def imageSections : List String := ["image", "product", "checksum"]

/-- A downloadable disk image from its configuration: the description and name given win over
    those of the configuration, missing sections are empty, and the product version and
    checksum value are texts. -/
def diskPackage (name description configFile config : Value) : Build Value := do
  if !configFile.truthy && !config.truthy then
    throw (.badValue "Downloadable image configuration not found !!!")
  let config <- if config.truthy then pure config else Files.readSpec configFile
  let .dict entries := config
    | throw (.wrongType "Downloadable image configuration is not of type dict")
  let desc := if description.truthy then description
    else (dictGet? entries "description").getD (.str "")
  let mut entries := dictPut entries "description" desc
  let configName := (dictGet? entries "name").getD .none
  let name := if name.truthy then name
    else if configName.truthy then configName else .str Kind.vmDiskPackage.schemaName
  for s in imageSections do
    if !(entries.any (·.1.isText s)) then entries := dictPut entries s (.dict [])
  let product := (dictGet? entries "product").getD .none
  let version <- getOr product "version" (.str "")
  let product' <- match product with
    | .dict p => pure (Value.dict (dictPut p "version" (strOf version)))
    | v => throw v.noItemAssignment
  entries := dictPut entries "product" product'
  let checksum := (dictGet? entries "checksum").getD .none
  let value <- getOr checksum "value" (.str "")
  let checksum' <- match checksum with
    | .dict c => pure (Value.dict (dictPut c "value" (strOf value)))
    | v => throw v.noItemAssignment
  entries := dictPut entries "checksum" checksum'
  let attrs := entries.map fun (k, v) => (k.toText, v)
  pure (.entity (<- makeClass .vmDiskPackage name [] attrs))

/-- The parameters of the downloadable image constructors, with the name of the configuration
    parameter. -/
def diskPackageParams (configName : String) : List (String × Option Value) :=
  [opt "name" (.str ""), opt "description" (.str ""), opt "config_file" .none,
   opt configName (.dict [])]

def builtin? (name : String) : Option Builtin :=
  match name with
  | "port" => some (fromKeywords name .port)
  | "service" => some (fromKeywords name .service)
  | "published_service" => some (fromKeywords name .publishedService)
  | "package" => some (fromKeywords name .package)
  | "substrate" => some (fromKeywords name .substrate)
  | "deployment" => some (fromKeywords name .deployment)
  | "pod_deployment" => some (fromKeywords name .podDeployment)
  | "profile" => some (fromKeywords name .profile)
  | "blueprint" => some (fromKeywords name .blueprint true)
  | "readiness_probe" => some (fromKeywords name .readinessProbe true)
  | "ahv_vm_nic" => some (fromKeywords name .ahvNic)
  | "ahv_vm_disk" => some (fromKeywords name .ahvDisk)
  | "ahv_vm_gpu" => some (fromKeywords name .ahvGpu)
  | "ahv_vm_guest_customization" => some (fromKeywords name .ahvGuestCustomization)
  | "ahv_vm_resources" => some (fromKeywords name .ahvVmResources)
  | "ahv_vm" => some (fromKeywords name .ahvVm)
  | "ahv_vm_recovery_spec" => some (fromKeywords name .ahvRecoverySpec)
  | "provider_spec" => some (fn name [req "spec"] fun b => pure (providerSpec (b.get "spec")))
  | "vm_disk_package" =>
    some (fn name (diskPackageParams "config") fun b =>
      diskPackage (b.get "name") (b.get "description") (b.get "config_file") (b.get "config"))
  | "ahv_vm_disk_package" =>
    some (fn name (diskPackageParams "config_data") fun b => do
      let config := b.get "config_data"
      if !(b.get "config_file").truthy && !config.truthy then
        throw (.badValue "Downloadable image configuration not found !!!")
      diskPackage (b.get "name") (b.get "description") (b.get "config_file") config)
  | _ => none

/-- The names of the namespace that this module defines. -/
def names : List String :=
  ["port", "service", "published_service", "package", "substrate", "deployment",
   "pod_deployment", "profile", "blueprint", "readiness_probe", "ahv_vm_nic", "ahv_vm_disk",
   "ahv_vm_gpu", "ahv_vm_guest_customization", "ahv_vm_resources", "ahv_vm",
   "ahv_vm_recovery_spec", "provider_spec", "vm_disk_package", "ahv_vm_disk_package"]

end Blueprints.Library.Entities
