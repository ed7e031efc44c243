
namespace Blueprints

/-- The kind of an entity class. -/
inductive Kind where
  | accountProvider | action | ahvDisk | ahvDiskRuleset | ahvGpu | ahvGuestCustomization
  | ahvNic | ahvNicRuleset | ahvVm | ahvVmResources | ahvRecoveryResources | ahvRecoverySpec
  | blueprint | blueprintPayload | brownfieldDeployment | brownfieldVm | calmRef | configAttrs
  | configSpec | patchConfigSpec | snapshotConfigSpec | restoreConfigSpec | credential
  | deployment | descriptor | endpoint | endpointPayload | environment | environmentPayload
  | job | jobExecutable | jobScheduleInfo | metadata | package | patchDataField | podDeployment
  | port | profile | project | projectPayload | providerSpec | publishedService
  | readinessProbe | ref | runbook | runbookPayload | runbookService | service
  | simpleBlueprint | simpleDeployment | simplePodDeployment | substrate | task | taskInput
  | variable | vmBlueprint | vmDiskPackage | vmProfile
deriving DecidableEq, Repr, Inhabited

namespace Kind

/-- Every kind, in the order in which the library registers them. -/
def all : List Kind :=
  [.ref, .calmRef, .metadata, .taskInput, .variable, .descriptor, .task, .credential,
   .endpoint, .runbook, .runbookService, .action, .port, .service, .publishedService, .package,
   .providerSpec, .readinessProbe, .ahvNic, .ahvDisk, .ahvGpu, .ahvGuestCustomization,
   .ahvVmResources, .ahvVm, .ahvRecoveryResources, .ahvRecoverySpec, .substrate, .deployment,
   .podDeployment, .ahvDiskRuleset, .ahvNicRuleset, .patchDataField, .configAttrs, .configSpec,
   .patchConfigSpec, .snapshotConfigSpec, .restoreConfigSpec, .profile, .blueprint,
   .simpleDeployment, .simplePodDeployment, .simpleBlueprint, .blueprintPayload,
   .vmDiskPackage, .accountProvider, .environment, .environmentPayload, .project,
   .projectPayload, .brownfieldVm, .brownfieldDeployment, .endpointPayload, .runbookPayload,
   .vmProfile, .vmBlueprint, .jobScheduleInfo, .jobExecutable, .job]

/-- The name of the schema that a kind's attributes follow. -/
def schemaName : Kind -> String
  | .accountProvider => "AccountProvider" | .action => "Action" | .ahvDisk => "AhvDisk"
  | .ahvDiskRuleset => "AhvDiskRuleset" | .ahvGpu => "AhvGpu"
  | .ahvGuestCustomization => "AhvGuestCustomization" | .ahvNic => "AhvNic"
  | .ahvNicRuleset => "AhvNicRuleset" | .ahvVm => "AhvVm" | .ahvVmResources => "AhvVmResources"
  | .ahvRecoveryResources => "AhvVmRecoveryResources" | .ahvRecoverySpec => "AhvVmRecoverySpec"
  | .blueprint => "Blueprint" | .blueprintPayload => "BlueprintPayload"
  | .brownfieldDeployment => "BrownfieldDeployment" | .brownfieldVm => "BrownfieldVm"
  | .calmRef => "CalmRef" | .configAttrs => "ConfigAttrs" | .configSpec => "ConfigSpec"
  | .patchConfigSpec => "ConfigSpec" | .snapshotConfigSpec => "ConfigSpec"
  | .restoreConfigSpec => "ConfigSpec" | .credential => "Credential"
  | .deployment => "Deployment" | .descriptor => "Descriptor" | .endpoint => "Endpoint"
  | .endpointPayload => "EndpointPayload" | .environment => "Environment"
  | .environmentPayload => "EnvironmentPayload" | .job => "Job"
  | .jobExecutable => "JobExecutable" | .jobScheduleInfo => "JobScheduleInfo"
  | .metadata => "Metadata" | .package => "Package" | .patchDataField => "PatchDataField"
  | .podDeployment => "PODDeployment" | .port => "Port" | .profile => "Profile"
  | .project => "Project" | .projectPayload => "ProjectPayload"
  | .providerSpec => "ProviderSpec" | .publishedService => "PublishedService"
  | .readinessProbe => "ReadinessProbe" | .ref => "Ref" | .runbook => "Runbook"
  | .runbookPayload => "RunbookPayload" | .runbookService => "RunbookService"
  | .service => "Service" | .simpleBlueprint => "SimpleBlueprint"
  | .simpleDeployment => "SimpleDeployment" | .simplePodDeployment => "SimplePODDeployment"
  | .substrate => "Substrate" | .task => "Task" | .taskInput => "TaskInput"
  | .variable => "Variable" | .vmBlueprint => "VmBlueprint" | .vmDiskPackage => "VmDiskPackage"
  | .vmProfile => "VmProfile"

/-- The API kind that a reference to a class of this kind carries. -/
def apiKind : Kind -> String
  | .accountProvider => "app_account_provider" | .action => "app_action"
  | .ahvDisk => "vm_ahv_disk" | .ahvDiskRuleset => "ahv_disk_rule" | .ahvGpu => "vm_ahv_gpu"
  | .ahvGuestCustomization => "vm_ahv_gc" | .ahvNic => "vm_ahv_nic"
  | .ahvNicRuleset => "ahv_nic_rule" | .ahvVm => "vm_ahv"
  | .ahvVmResources => "vm_ahv_resources"
  | .ahvRecoveryResources => "recovery_vm_ahv_resources"
  | .ahvRecoverySpec => "recovery_vm_ahv_spec" | .blueprint => "app_blueprint"
  | .blueprintPayload => "app_blueprint_payload"
  | .brownfieldDeployment => "app_brownfield_deployment"
  | .brownfieldVm => "app_brownfield_vm" | .calmRef => "app_calm_ref"
  | .configAttrs => "config_attrs" | .configSpec | .patchConfigSpec | .snapshotConfigSpec
  | .restoreConfigSpec => "app_config_spec" | .credential => "app_credential"
  | .deployment => "app_blueprint_deployment" | .descriptor => "app_descriptor"
  | .endpoint => "app_endpoint" | .endpointPayload => "endpoint_payload"
  | .environment => "environment" | .environmentPayload => "app_environment_payload"
  | .job => "scheduler_job" | .jobExecutable => "executable_resources"
  | .jobScheduleInfo => "job_schedule_info" | .metadata => "app_metadata"
  | .package => "app_package" | .patchDataField => "patch_data_field"
  | .podDeployment => "app_pod_deployment" | .port => "app_port" | .profile => "app_profile"
  | .project => "project" | .projectPayload => "app_project_payload"
  | .providerSpec => "app_provider_spec" | .publishedService => "app_published_service"
  | .readinessProbe => "app_readiness_probe" | .ref => "app_ref" | .runbook => "app_runbook"
  | .runbookPayload => "runbook_payload" | .runbookService => "runbook_service"
  | .service => "app_service" | .simpleBlueprint => "app_simple_blueprint"
  | .simpleDeployment => "app_blueprint_simple_deployment"
  | .simplePodDeployment => "app_simple_pod_deployment" | .substrate => "app_substrate"
  | .task => "app_task" | .taskInput => "task_input" | .variable => "app_variable"
  | .vmBlueprint => "app_vm_blueprint" | .vmDiskPackage => "app_vm_disk_package"
  | .vmProfile => "app_vm_profile"

/-- The module that defines a kind's metaclass, as type texts in messages name it. -/
def moduleName : Kind -> String
  | .accountProvider => "providers" | .action => "action" | .ahvDisk => "ahv_vm_disk"
  | .ahvDiskRuleset => "config_attrs" | .ahvGpu => "ahv_vm_gpu"
  | .ahvGuestCustomization => "ahv_vm_gc" | .ahvNic => "ahv_vm_nic"
  | .ahvNicRuleset => "config_attrs" | .ahvVm => "ahv_vm" | .ahvVmResources => "ahv_vm"
  | .ahvRecoveryResources => "ahv_recovery_vm" | .ahvRecoverySpec => "ahv_recovery_vm"
  | .blueprint => "blueprint" | .blueprintPayload => "blueprint_payload"
  | .brownfieldDeployment => "brownfield" | .brownfieldVm => "brownfield" | .calmRef => "calm_ref"
  | .configAttrs => "config_attrs" | .configSpec => "config_spec"
  | .patchConfigSpec => "config_spec" | .snapshotConfigSpec => "config_spec"
  | .restoreConfigSpec => "config_spec" | .credential => "credential" | .deployment => "deployment"
  | .descriptor => "descriptor" | .endpoint => "endpoint" | .endpointPayload => "endpoint_payload"
  | .environment => "environment" | .environmentPayload => "environment_payload" | .job => "job"
  | .jobExecutable => "job" | .jobScheduleInfo => "job" | .metadata => "metadata"
  | .package => "package" | .patchDataField => "config_attrs" | .podDeployment => "pod_deployment"
  | .port => "port" | .profile => "profile" | .project => "project"
  | .projectPayload => "project_payload" | .providerSpec => "provider_spec"
  | .publishedService => "published_service" | .readinessProbe => "readiness_probe" | .ref => "ref"
  | .runbook => "runbook" | .runbookPayload => "runbook_payload"
  | .runbookService => "runbook_service" | .service => "service"
  | .simpleBlueprint => "simple_blueprint" | .simpleDeployment => "simple_deployment"
  | .simplePodDeployment => "simple_pod_deployment" | .substrate => "substrate" | .task => "task"
  | .taskInput => "task_input" | .variable => "variable" | .vmBlueprint => "vm_blueprint"
  | .vmDiskPackage => "vm_disk_package" | .vmProfile => "vm_profile"

/-- The name of a kind's metaclass, as type texts in messages name it. -/
def typeName : Kind -> String
  | .accountProvider => "AccountProviderType" | .action => "ActionType" | .ahvDisk => "AhvDiskType"
  | .ahvDiskRuleset => "AhvDiskRuleset" | .ahvGpu => "AhvGpuType"
  | .ahvGuestCustomization => "AhvGCType" | .ahvNic => "AhvNicType"
  | .ahvNicRuleset => "AhvNicRuleset" | .ahvVm => "AhvVmType"
  | .ahvVmResources => "AhvVmResourcesType" | .ahvRecoveryResources => "AhvVMRecoveryResourcesType"
  | .ahvRecoverySpec => "AhvVMRecoverySpecType" | .blueprint => "BlueprintType"
  | .blueprintPayload => "BlueprintPayloadType"
  | .brownfieldDeployment => "BrownfieldDeploymentType" | .brownfieldVm => "BrownfiedVmType"
  | .calmRef => "CalmRefType" | .configAttrs => "ConfigAttrs" | .configSpec => "ConfigSpecType"
  | .patchConfigSpec => "PatchConfigSpecType" | .snapshotConfigSpec => "SnapshotConfigSpecType"
  | .restoreConfigSpec => "RestoreConfigSpecType" | .credential => "CredentialType"
  | .deployment => "DeploymentType" | .descriptor => "DescriptorType" | .endpoint => "EndpointType"
  | .endpointPayload => "EndpointPayloadType" | .environment => "EnvironmentType"
  | .environmentPayload => "EnvironmentPayloadType" | .job => "JobType"
  | .jobExecutable => "JobExecutable" | .jobScheduleInfo => "JobSchedule"
  | .metadata => "MetadataType" | .package => "PackageType" | .patchDataField => "PatchDataField"
  | .podDeployment => "PODDeploymentType" | .port => "PortType" | .profile => "ProfileType"
  | .project => "ProjectType" | .projectPayload => "ProjectPayloadType"
  | .providerSpec => "ProviderSpecType" | .publishedService => "PublishedServiceType"
  | .readinessProbe => "ReadinessProbeType" | .ref => "RefType" | .runbook => "RunbookType"
  | .runbookPayload => "RunbookPayloadType" | .runbookService => "RunbookServiceType"
  | .service => "ServiceType" | .simpleBlueprint => "SimpleBlueprintType"
  | .simpleDeployment => "SimpleDeploymentType" | .simplePodDeployment => "SimplePODDeploymentType"
  | .substrate => "SubstrateType" | .task => "TaskType" | .taskInput => "TaskInputType"
  | .variable => "VariableType" | .vmBlueprint => "VmBlueprintType"
  | .vmDiskPackage => "VmDiskPackageType" | .vmProfile => "VmProfileType"

def parent? : Kind -> Option Kind
  | .ahvVm => some .providerSpec
  | .ahvRecoveryResources => some .ahvVmResources
  | .brownfieldDeployment => some .deployment
  | .podDeployment => some .deployment
  | .simplePodDeployment => some .podDeployment
  | .patchConfigSpec | .snapshotConfigSpec | .restoreConfigSpec => some .configSpec
  | .vmDiskPackage => some .package
  | _ => none

/-- Whether `k` is `target` or refines it, directly or through other kinds. -/
def isA (k target : Kind) : Bool :=
  k == target || match k.parent? with
    | some p => p == target || (p.parent?.map (· == target)).getD false
    | none => false

/-- The kind registered for a schema name; of several kinds with one schema the last registered
    wins. -/
def ofSchemaName? (name : String) : Option Kind :=
  (all.filter (·.schemaName == name)).getLast?

end Kind

end Blueprints
