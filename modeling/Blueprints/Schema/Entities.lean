import Blueprints.Schema.Basic

namespace Blueprints.Schema.Entities

/-- The `spec` of a payload: a name, a description, and resources of the named schema. -/
def payloadSpec (resources : String) : Schema :=
  { type := ["object"], calmType := some "dict",
    properties := some [("name", .text), ("description", .text),
      ("resources", { type := ["object"], propertiesRef := some resources })] }

/-- The payload of an entity: its `spec` with resources of the named schema, the API version, and
    metadata of the given kind with the further properties `more`. -/
def payloadOf (entity resources kind : String) (more : List (String × Schema)) : Schema :=
  .entity entity [("spec", payloadSpec resources), ("api_version", .textOr "3.0"),
    ("metadata", {
      type := ["object"], calmType := some "dict",
      properties := some ([("spec_version", { type := ["integer"], default := some (.int 1) }),
        ("kind", .textOr kind)] ++ more) })]

def ahvDiskRulesetSchema : Schema :=
  .entity "ahv_disk_rule" [
    ("disk_operation", .text), ("operation", .text), ("editable", .flag), ("value", .text),
    ("max_value", .integer), ("min_value", .integer), ("index", .integer),
    ("disk_value", .refTo "AhvDisk")]

def ahvNicRulesetSchema : Schema :=
  .entity "ahv_nic_rule" [
    ("operation", .text), ("editable", .flag), ("index", .text), ("nic_value", .refTo "AhvNic")]

def patchDataFieldSchema : Schema :=
  .entity "patch_data_field" [
    ("type", .text), ("operation", .text), ("editable", .flag), ("value", .text),
    ("max_value", .integer), ("min_value", .integer)]

def configAttrsSchema : Schema :=
  .entity "config_attrs" [
    ("memory", .refTo "PatchDataField"), ("vcpu", .refTo "PatchDataField"),
    ("numsocket", .refTo "PatchDataField"), ("disk_delete", .flag), ("nic_delete", .flag),
    ("categories_add", .flag), ("categories_delete", .flag), ("nics", .listOf "AhvNicRuleset"),
    ("disks", .listOf "AhvDiskRuleset"),
    ("categories", .arrayOf .dict)]

def configSpecSchema : Schema :=
  .entity "app_config_spec" [
    ("name", .text), ("description", .text), ("type", .text),
    ("variable_list", .listAs "variables" "Variable"),
    ("config_reference_list", .listAs "config_references" "Ref"),
    ("patch_attrs", .listOf "ConfigAttrs"),
    ("attrs_list", .arrayOf .dict)]

def portSchema : Schema :=
  .entity "app_port" [
    ("target_port", .text), ("protocol", .textOr "SSH"), ("endpoint_name", .blank),
    ("exposed_address", .blank), ("exposed_port", .blank)]

def serviceSchema : Schema :=
  .entity "app_service" [
    ("name", .blankUpTo 64),
    ("description", .blankUpTo 1000),
    ("port_list", {
      type := ["array"], displayName := some "ports", default := some (.arr []),
      items := some (.refTo "Port") }), ("singleton", .flag), ("tier", .blank),
    ("depends_on_list", .listAs "dependencies" "Ref"),
    ("variable_list", .listAs "variables" "Variable"),
    ("action_list", .listAs "actions" "Action"),
    ("container_spec", .dict)]

def publishedServiceSchema : Schema :=
  .entity "app_published_service" [
    ("name", .blankUpTo 64),
    ("description", .blankUpTo 1000),
    ("type", {
      type := ["string"], default := some (.str "K8S_SERVICE"),
      enum := some [.str "K8S_SERVICE"] }),
    ("port_list", {
      type := ["array"], displayName := some "ports", default := some (.arr []),
      items := some (.refTo "Port") }),
    ("singleton", { type := ["boolean"], default := some (.bool true) }), ("tier", .blank),
    ("depends_on_list", .listAs "dependencies" "Ref"),
    ("variable_list", .listAs "variables" "Variable"),
    ("action_list", .listAs "actions" "Action"),
    ("options", .dict)]

def providerSpecSchema : Schema :=
  { type := ["object"], calmType := some "app_provider_spec" }

def substrateSchema : Schema :=
  .entity "app_substrate" [
    ("name", .blankUpTo 64),
    ("description", .blankUpTo 1000),
    ("type", {
      type := ["string"], displayName := some "provider_type", default := some (.str "AHV_VM") }),
    ("os_type", .textOr "Linux"),
    ("account_reference", {
      type := ["object"], calmType := some "app_calm_ref", displayName := some "account",
      minVersion := some "3.2.0" }),
    ("vm_recovery_spec", {
      type := ["object"], calmType := some "recovery_vm_ahv_spec", minVersion := some "3.3.0" }),
    ("create_spec", {
      type := ["object"], calmType := some "app_provider_spec",
      displayName := some "provider_spec" }),
    ("editables", {
      type := ["object"], calmType := some "dict", displayName := some "provider_spec_editables" }),
    ("variable_list", .listAs "variables" "Variable"),
    ("action_list", .listAs "actions" "Action"), ("readiness_probe", .refTo "ReadinessProbe")]

def deploymentSchema : Schema :=
  .entity "app_blueprint_deployment" [
    ("published_service_local_reference_list", .listAs "published_services" "Ref"),
    ("package_local_reference_list", .listAs "packages" "Ref"),
    ("substrate_local_reference", .localRef "substrate"),
    ("depends_on_list", .listAs "dependencies" "Ref"),
    ("variable_list", .listAs "variables" "Variable"),
    ("action_list", .listAs "actions" "Action"), ("min_replicas", .textOr "1"),
    ("default_replicas", { type := ["string"], minVersion := some "2.9.0" }),
    ("max_replicas", .textOr "1"), ("type", .textOr "GREENFIELD"), ("name", .text),
    ("options", .dict), ("description", .text),
    ("editables", .entity "object" [
        ("min_replicas", .truth), ("default_replicas", .truth), ("max_replicas", .truth)])]

def pODDeploymentSchema : Schema :=
  .entity "app_pod_deployment" [
    ("type", .textOr "K8S_DEPLOYMENT"), ("containers", .listOf "Service"),
    ("deployment_spec", .dict),
    ("service_spec", .dict),
    ("depends_on_list", .listAs "dependencies" "Ref")]

def simplePODDeploymentSchema : Schema :=
  .entity "app_simple_pod_deployment" [
    ("type", .textOr "K8S_DEPLOYMENT"),
    ("deployment_spec", .dict),
    ("service_spec", .dict),
    ("depends_on_list", .listAs "dependencies" "Ref"), ("action_list", .listAs "actions" "Action")]

def profileSchema : Schema :=
  .entity "app_profile" [
    ("name", .text), ("description", .text),
    ("environment_reference_list", {
      type := ["array"], displayName := some "environments", minVersion := some "3.2.0",
      items := some { type := ["object"], calmType := some "app_calm_ref" } }),
    ("deployment_create_list", .listAs "deployments" "Deployment"),
    ("variable_list", .listAs "variables" "Variable"),
    ("patch_list", {
      type := ["array"], displayName := some "patch_list", minVersion := some "3.3.0",
      items := some (.refTo "ConfigSpec") }), ("action_list", .listAs "actions" "Action"),
    ("snapshot_config_list", {
      type := ["array"], displayName := some "snapshot_configs", minVersion := some "3.3.0",
      items := some (.refTo "ConfigSpec") }),
    ("restore_config_list", {
      type := ["array"], displayName := some "restore_configs", minVersion := some "3.3.0",
      items := some (.refTo "ConfigSpec") })]

def blueprintSchema : Schema :=
  .entity "app_blueprint" [
    ("type", .textOr "USER"), ("service_definition_list", .listAs "services" "Service"),
    ("package_definition_list", .listAs "packages" "Package"),
    ("published_service_definition_list", .listAs "published_services" "PublishedService"),
    ("substrate_definition_list", .listAs "substrates" "Substrate"),
    ("credential_definition_list", .listAs "credentials" "Credential"),
    ("app_profile_list", .listAs "profiles" "Profile"),
    ("client_attrs", .dict),
    ("default_credential_local_reference", .localRef "default_cred")]

def blueprintPayloadSchema : Schema :=
  .entity "app_blueprint_payload" [
    ("spec", payloadSpec "Blueprint"), ("api_version", .textOr "3.0"), ("metadata", .refTo "Metadata")]

def refSchema : Schema :=
  {
    type := ["object"], calmType := some "app_ref", required := some ["kind"],
    properties := some [("kind", .text), ("name", .text)] }

def taskInputSchema : Schema :=
  {
    type := ["object"], calmType := some "task_input", required := some ["name"],
    properties := some [
      ("input_type", {
        type := ["string"], default := some (.str "text"),
        enum := some [
          .str "text", .str "password", .str "checkbox", .str "select", .str "selectmultiple",
          .str "date", .str "time", .str "datetime", .str "file"] }), ("name", .text),
      ("options", .arrayOf .text)] }

def descriptorSchema : Schema :=
  { type := ["object"], calmType := some "app_descriptor" }

def variableSchema : Schema :=
  .entity "app_variable" [
    ("name", .textUpTo 64),
    ("description", .textUpTo 1000),
    ("type", {
      type := ["string"], default := some (.str "LOCAL"),
      enum := some [
        .str "LOCAL", .str "SECRET", .str "EXTERNAL", .str "EXEC_LOCAL", .str "HTTP_LOCAL",
        .str "EXEC_SECRET", .str "HTTP_SECRET", .str "EXEC_EXTERNAL", .str "HTTP_EXTERNAL"] }),
    ("label", .text), ("attrs", .dict),
    ("val_type", {
      type := ["string"], displayName := some "value_type", default := some (.str "STRING"),
      enum := some [
        .str "STRING", .str "INT", .str "DICT", .str "DATE", .str "TIME", .str "DATE_TIME",
        .str "MULTILINE_STRING"] }), ("value", .text),
    ("data_type", {
      type := ["string"], default := some (.str "BASE"),
      enum := some [.str "BASE", .str "LIST", .str "SINGLE_SELECT_LIST"] }),
    ("editables", .dict),
    ("regex", .entity "object" [("value", .text), ("should_validate", .truth)]),
    ("options", .entity "object" [
        ("type", {
          type := ["string"], enum := some [.str "PREDEFINED", .str "EXEC", .str "HTTP"] }),
        ("choices", .arrayOf .text), ("attrs", .dict)]),
    ("is_hidden", .truth), ("is_mandatory", .truth)]

def packageSchema : Schema :=
  .entity "app_package" [
    ("name", .blankUpTo 64),
    ("description", .blankUpTo 1000),
    ("type", .textOr "CUSTOM"),
    ("options", {
      type := ["object"], calmType := some "object",
      default := some (.obj [("install_runbook", .obj []), ("uninstall_runbook", .obj [])]),
      properties := some [
        ("install_runbook", .dict),
        ("uninstall_runbook", .dict), ("name", .text),
        ("description", .text),
        ("resources", .entity "object" [
            ("image_type", {
              type := ["string"], enum := some [.str "DISK_IMAGE", .str "ISO_IMAGE"] }),
            ("source_uri", .text), ("architecture", .text),
            ("version", .entity "object" [("product_version", .text), ("product_name", .text)]),
            ("checksum", .entity "object" [
                ("checksum_algorithm", {
                  type := ["string"], enum := some [.str "SHA_1", .str "SHA_256", .str ""] }),
                ("checksum_value", .text)])])] }),
    ("service_local_reference_list", .listAs "services" "Ref"),
    ("variable_list", .listAs "variables" "Variable"),
    ("action_list", .listAs "actions" "Action"),
    ("image_spec", .dict), ("version", .text)]

def credentialSchema : Schema :=
  .entity "app_credential" [
    ("name", .text), ("description", .text), ("type", .textOr "PASSWORD"), ("username", .text),
    ("resource_type_reference", {
      type := ["object"], calmType := some "app_calm_ref", displayName := some "resource_type",
      minVersion := some "3.4.0", defaultRequired := false }),
    ("account_reference", {
      type := ["object"], calmType := some "app_calm_ref", displayName := some "account",
      minVersion := some "3.4.0", defaultRequired := false }),
    ("secret", {
      type := ["object"], calmType := some "dict",
      default := some (
        .obj [("attrs", .obj [("is_secret_modified", .bool false)]), ("value", .str "")]) }),
    ("passphrase", {
      type := ["object"], calmType := some "dict", defaultRequired := false,
      default := some (
        .obj [("attrs", .obj [("is_secret_modified", .bool false)]), ("value", .str "")]) }),
    ("variable_list", {
      type := ["array"], minVersion := some "3.4.0", defaultRequired := false,
      items := some (.refTo "Variable") }),
    ("cred_class", {
      type := ["string"], minVersion := some "3.4.0", default := some (.str "static") }),
    ("default", .flag),
    ("editables", .entity "object" [
        ("username", .truth), ("secret", .truth),
        ("resource_type_reference", {
          type := ["boolean"], minVersion := some "3.4.0", defaultRequired := false })])]

def endpointSchema : Schema :=
  .entity "app_endpoint" [
    ("name", .textUpTo 64),
    ("type", .textUpTo 64),
    ("value_type", .textUpTo 64),
    ("provider_type", .textUpTo 64),
    ("attrs", .dict)]

def endpointPayloadSchema : Schema := payloadOf "endpoint_payload" "Endpoint" "endpoint" []

def taskSchema : Schema :=
  .entity "app_task" [
    ("name", .text), ("description", .text), ("type", .text),
    ("target_any_local_reference", .refTo "Ref"), ("exec_target_reference", .refTo "Ref"),
    ("attrs", .dict),
    ("child_tasks_local_reference_list", .listOf "Ref"),
    ("variable_list", .listAs "variables" "Variable"), ("retries", .text), ("timeout_secs", .text)]

def runbookSchema : Schema :=
  .entity "app_runbook" [
    ("name", .text), ("description", .text), ("main_task_local_reference", .refTo "Ref"),
    ("task_definition_list", .listAs "tasks" "Task"),
    ("variable_list", .listAs "variables" "Variable")]

def runbookServiceSchema : Schema :=
  .entity "runbook_service" [
    ("endpoint_definition_list", .listAs "endpoints" "Endpoint"),
    ("credential_definition_list", .listAs "credentials" "Credential"),
    ("client_attrs", .dict),
    ("runbook", .refTo "Runbook"),
    ("default_target_reference", {
      type := ["object"], calmType := some "app_ref", displayName := some "default_target" })]

def runbookPayloadSchema : Schema := payloadOf "runbook_payload" "RunbookService" "action" []

def actionSchema : Schema :=
  .entity "app_action" [
    ("name", .text), ("description", .text), ("type", .text), ("critical", .truth),
    ("runbook", .refTo "Runbook")]

def projectSchema : Schema :=
  .entity "project" [
    ("provider_list", .listAs "providers" "AccountProvider"),
    ("user_reference_list", {
      type := ["array"], displayName := some "users",
      items := some (.entity "object" [("kind", .text), ("name", .text), ("uuid", .text)]) }),
    ("environment_reference_list", .listAs "env_refs" "Ref"),
    ("default_environment_reference", { Schema.localRef "default_environment" with minVersion := some "3.2.0" }),
    ("environment_definition_list", .listAs "envs" "Environment"),
    ("external_user_group_reference_list", {
      type := ["array"], displayName := some "groups",
      items := some (.entity "object" [("kind", .text), ("name", .text), ("uuid", .text)]) }),
    ("quotas", .entity "object" [
        ("VCPUS", { type := ["integer"], displayName := some "vcpus" }),
        ("STORAGE", { type := ["integer"], displayName := some "storage" }),
        ("MEMORY", { type := ["integer"], displayName := some "memory" })])]

def projectPayloadSchema : Schema := payloadOf "app_project_payload" "Project" "project" []

def simpleDeploymentSchema : Schema :=
  .entity "app_blueprint_simple_deployment" [
    ("name", .blankUpTo 64),
    ("description", .blankUpTo 1000),
    ("depends_on_list", .listAs "dependencies" "Ref"),
    ("variable_list", .listAs "variables" "Variable"),
    ("action_list", {
      type := ["array"], displayName := some "actions",
      items := some .dict }),
    ("provider_type", .textOr "AHV_VM"), ("os_type", .textOr "Linux"),
    ("provider_spec", { type := ["object"], calmType := some "app_provider_spec" }),
    ("readiness_probe", .entity "object" [
        ("connection_type", {
          type := ["string"], default := some (.str "SSH"),
          enum := some [.str "SSH", .str "POWERSHELL"] }),
        ("connection_port", { type := ["integer"], default := some (.int 22) }),
        ("login_credential_local_reference", .localRef "credential"),
        ("timeout_secs", .text), ("delay_secs", .text), ("retries", .textOr "5"),
        ("address", .text),
        ("disable_readiness_probe", {
          type := ["boolean"], displayName := some "disabled", default := some (.bool false) })]),
    ("min_replicas", .textOr "1"), ("max_replicas", .textOr "1"),
    ("deployment_spec", .dict),
    ("service_spec", .dict)]

def simpleBlueprintSchema : Schema :=
  .entity "app_simple_blueprint" [
    ("name", .blankUpTo 64),
    ("description", .blankUpTo 1000),
    ("environment_reference_list", {
      type := ["array"], displayName := some "environments", minVersion := some "3.2.0",
      items := some { type := ["object"], calmType := some "app_calm_ref" } }),
    ("credentials", .listOf "Credential"), ("deployments", .listOf "SimpleDeployment"),
    ("variables", .listOf "Variable"), ("action_list", .listAs "actions" "Action")]

def ahvDiskSchema : Schema :=
  .entity "vm_ahv_disk" [
    ("data_source_reference", .objectOrNull [
        ("name", .text),
        ("kind", {
          type := ["string"], default := some (.str "image"), enum := some [.str "image"] }),
        ("uuid", .text)]),
    ("device_properties", .entity "object" [
        ("device_type", .textOr "DISK"),
        ("disk_address", .entity "object" [
            ("device_index", { type := ["integer"], default := some (.int 0) }),
            ("adapter_type", .textOr "SCSI")])]),
    ("disk_size_mib", { type := ["integer"], default := some (.int 0) }), ("bootable", .flag)]

def ahvNicSchema : Schema :=
  .entity "vm_ahv_nic" [
    ("network_function_nic_type", .textOr "INGRESS"), ("nic_type", .textOr "NORMAL_NIC"),
    ("subnet_reference", .objectOrNull [
        ("uuid", .text), ("kind", .textOr "subnet"), ("name", .text), ("cluster", .text)]),
    ("network_function_chain_reference", .objectOrNull [
        ("uuid", .text), ("kind", .textOr "network_function_chain"), ("name", .text)]),
    ("mac_address", .text),
    ("ip_endpoint_list", .arrayOf (.entity "object" [
        ("ip", .text),
        ("type", { type := ["string"], enum := some [.str "ASSIGNED", .str "LEARNED"] })]))]

def ahvGuestCustomizationSchema : Schema :=
  .entity "vm_ahv_gc" [
    ("sysprep", .objectOrNull [
        ("unattend_xml", .text), ("install_type", .textOr "PREPARED"), ("is_domain", .flag),
        ("domain", .text), ("dns_ip", .text), ("dns_search_path", .text),
        ("domain_credential_reference", .localRef "credential")]),
    ("cloud_init", .objectOrNull [("user_data", .text)])]

def ahvVmResourcesSchema : Schema :=
  .entity "vm_ahv_resources" [
    ("nic_list", .listAs "nics" "AhvNic"),
    ("num_vcpus_per_socket", {
      type := ["integer"], displayName := some "cores_per_vCPU", default := some (.int 1) }),
    ("num_sockets", { type := ["integer"], displayName := some "vCPUs", default := some (.int 2) }),
    ("memory_size_mib", {
      type := ["integer"], displayName := some "memory", default := some (.int 4) }),
    ("power_state", {
      type := ["string"], default := some (.str "ON"), enum := some [.str "ON", .str "OFF"] }),
    ("account_uuid", .text), ("gpu_list", .listAs "gpus" "AhvGpu"),
    ("disk_list", .listAs "disks" "AhvDisk"),
    ("boot_type", {
      type := ["string"], default := some (.str "LEGACY"),
      enum := some [.str "LEGACY", .str "UEFI"] }),
    ("guest_customization", .refTo "AhvGuestCustomization"),
    ("serial_port_list", {
      type := ["object"], calmType := some "dict", displayName := some "serial_ports" }),
    ("boot_config", .dict)]

def ahvVmSchema : Schema :=
  .entity "vm_ahv" [
    ("name", .text), ("categories", .dict),
    ("resources", .refTo "AhvVmResources")]

def ahvGpuSchema : Schema :=
  .entity "vm_ahv_gpu" [
    ("vendor", .text), ("mode", .text),
    ("device_id", { type := ["integer"], default := some (.int (-1)) })]

def vmDiskPackageSchema : Schema :=
  .entity "app_vm_disk_package" [
    ("name", .blankUpTo 64),
    ("description", .blankUpTo 1000),
    ("image", .entity "object" [
        ("name", .text), ("type", .textOr "DISK_IMAGE"),
        ("source_uri", { type := ["string"], displayName := some "source" }),
        ("architecture", .textOr "X86_64")]),
    ("product", .entity "object" [("name", .text), ("version", .text)]),
    ("checksum", .entity "object" [("algorithm", .text), ("value", .text)])]

def readinessProbeSchema : Schema :=
  .entity "app_readiness_probe" [
    ("connection_type", { type := ["string"], enum := some [.str "SSH", .str "POWERSHELL"] }),
    ("connection_port", .integer), ("connection_protocol", .text),
    ("login_credential_local_reference", .localRef "credential"),
    ("timeout_secs", .text), ("delay_secs", .textOr "60"), ("retries", .textOr "5"),
    ("address", .text),
    ("disable_readiness_probe", {
      type := ["boolean"], displayName := some "disabled", default := some (.bool true) }),
    ("editables_list", .arrayOf .text)]

def metadataSchema : Schema :=
  .entity "app_metadata" [
    ("name", .text), ("kind", .text),
    ("project_reference", {
      type := ["object"], calmType := some "object", displayName := some "project",
      properties := some [("name", .text), ("kind", .text), ("uuid", .text)] }),
    ("owner_reference", {
      type := ["object"], calmType := some "object", displayName := some "owner",
      properties := some [("name", .text), ("kind", .text), ("uuid", .text)] }),
    ("categories", .dict),
    ("spec_version", { type := ["integer"], default := some (.int 1) })]

def brownfieldVmSchema : Schema :=
  .entity "app_brownfield_vm" [
    ("instance_name", .text), ("instance_id", .text), ("address", .arrayOf .text),
    ("provider", .text), ("account_uuid", .text)]

def brownfieldDeploymentSchema : Schema :=
  .entity "app_brownfield_deployment" [
    ("published_service_local_reference_list", .listAs "published_services" "Ref"),
    ("package_local_reference_list", .listAs "packages" "Ref"),
    ("substrate_local_reference", .localRef "substrate"),
    ("name", .text), ("brownfield_instance_list", .listAs "instances" "BrownfieldVm"),
    ("type", .textOr "BROWNFIELD")]

def environmentSchema : Schema :=
  .entity "environment" [
    ("substrate_definition_list", .listAs "substrates" "Substrate"),
    ("credential_definition_list", .listAs "credentials" "Credential"),
    ("infra_inclusion_list", {
      type := ["array"], displayName := some "providers", minVersion := some "3.2.0",
      items := some (.refTo "AccountProvider") })]

def environmentPayloadSchema : Schema :=
  payloadOf "app_environment_payload" "Environment" "environment" [
    ("project_reference", {
      type := ["object"], calmType := some "object", displayName := some "project",
      properties := some [("name", .text), ("kind", .text), ("uuid", .text)] })]

def vmProfileSchema : Schema :=
  .entity "app_vm_profile" [
    ("name", .blankUpTo 64),
    ("environment_reference_list", {
      type := ["array"], displayName := some "environments", minVersion := some "3.2.0",
      items := some { type := ["object"], calmType := some "app_calm_ref" } }),
    ("os_type", .textOr "Linux"), ("provider_type", .textOr "AHV_VM"),
    ("provider_spec", { type := ["object"], calmType := some "app_provider_spec" }),
    ("readiness_probe", .refTo "ReadinessProbe"), ("min_replicas", .textOr "1"),
    ("max_replicas", .textOr "1"), ("variables", .listOf "Variable"),
    ("action_list", .listAs "actions" "Action")]

def vmBlueprintSchema : Schema :=
  .entity "app_vm_blueprint" [
    ("name", .blankUpTo 64),
    ("description", .blankUpTo 1000),
    ("credentials", .listOf "Credential"), ("type", .textOr "USER"),
    ("vm_profile_definition_list", .listAs "profiles" "VmProfile")]

def calmRefSchema : Schema :=
  { type := ["object"], calmType := some "app_calm_ref" }

def accountProviderSchema : Schema :=
  .entity "app_account_provider" [
    ("type", .text),
    ("account_reference", { type := ["object"], calmType := some "app_calm_ref" }),
    ("subnet_reference_list", .arrayOf { type := ["object"], calmType := some "app_calm_ref" }),
    ("external_network_list", .arrayOf { type := ["object"], calmType := some "app_calm_ref" }),
    ("default_subnet_reference", { type := ["object"], calmType := some "app_calm_ref" })]

def ahvVmRecoverySpecSchema : Schema :=
  .entity "recovery_vm_ahv_spec" [
    ("vm_name", .text),
    ("vm_override_resources", { type := ["object"], calmType := some "recovery_vm_ahv_resources" }),
    ("recovery_point", { type := ["object"], calmType := some "app_calm_ref" })]

def ahvVmRecoveryResourcesSchema : Schema :=
  .entity "recovery_vm_ahv_resources" [
    ("nic_list", .listAs "nics" "AhvNic"),
    ("num_vcpus_per_socket", {
      type := ["integer"], displayName := some "cores_per_vCPU", default := some (.int 1) }),
    ("num_sockets", { type := ["integer"], displayName := some "vCPUs", default := some (.int 2) }),
    ("memory_size_mib", {
      type := ["integer"], displayName := some "memory", default := some (.int 4) }),
    ("account_uuid", .text), ("gpu_list", .listAs "gpus" "AhvGpu")]

def jobExecutableSchema : Schema :=
  .entity "executable_resources" [
    ("entity", .entity "object" [
        ("type", {
          type := ["string"],
          enum := some [.str "runbook", .str "blueprint", .str "app", .str "mpi"] }),
        ("uuid", .text)]),
    ("action", .entity "object" [
        ("type", .text),
        ("spec", .entity "object" [("uuid", .text), ("payload", .text)])])]

def jobScheduleInfoSchema : Schema :=
  .entity "job_schedule_info" [
    ("schedule", .text), ("expiry_time", .text), ("execution_time", .text), ("start_time", .text),
    ("time_zone", .text)]

def jobSchema : Schema :=
  .entity "scheduler_job" [
    ("name", .text), ("description", .text), ("type", .text),
    ("schedule_info", { type := ["object"], calmType := some "job_schedule_info" }),
    ("skip_concurrent_execution", { type := ["boolean"], displayName := some "skip_exec" }),
    ("executable", { type := ["object"], calmType := some "executable_resources" }),
    ("state", .text)]

def named : List (String × Schema) :=
  [("AhvDiskRuleset", ahvDiskRulesetSchema),
   ("AhvNicRuleset", ahvNicRulesetSchema),
   ("PatchDataField", patchDataFieldSchema),
   ("ConfigAttrs", configAttrsSchema),
   ("ConfigSpec", configSpecSchema),
   ("Port", portSchema),
   ("Service", serviceSchema),
   ("PublishedService", publishedServiceSchema),
   ("ProviderSpec", providerSpecSchema),
   ("Substrate", substrateSchema),
   ("Deployment", deploymentSchema),
   ("PODDeployment", pODDeploymentSchema),
   ("SimplePODDeployment", simplePODDeploymentSchema),
   ("Profile", profileSchema),
   ("Blueprint", blueprintSchema),
   ("BlueprintPayload", blueprintPayloadSchema),
   ("Ref", refSchema),
   ("TaskInput", taskInputSchema),
   ("Descriptor", descriptorSchema),
   ("Variable", variableSchema),
   ("Package", packageSchema),
   ("Credential", credentialSchema),
   ("Endpoint", endpointSchema),
   ("EndpointPayload", endpointPayloadSchema),
   ("Task", taskSchema),
   ("Runbook", runbookSchema),
   ("RunbookService", runbookServiceSchema),
   ("RunbookPayload", runbookPayloadSchema),
   ("Action", actionSchema),
   ("Project", projectSchema),
   ("ProjectPayload", projectPayloadSchema),
   ("SimpleDeployment", simpleDeploymentSchema),
   ("SimpleBlueprint", simpleBlueprintSchema),
   ("AhvDisk", ahvDiskSchema),
   ("AhvNic", ahvNicSchema),
   ("AhvGuestCustomization", ahvGuestCustomizationSchema),
   ("AhvVmResources", ahvVmResourcesSchema),
   ("AhvVm", ahvVmSchema),
   ("AhvGpu", ahvGpuSchema),
   ("VmDiskPackage", vmDiskPackageSchema),
   ("ReadinessProbe", readinessProbeSchema),
   ("Metadata", metadataSchema),
   ("BrownfieldVm", brownfieldVmSchema),
   ("BrownfieldDeployment", brownfieldDeploymentSchema),
   ("Environment", environmentSchema),
   ("EnvironmentPayload", environmentPayloadSchema),
   ("VmProfile", vmProfileSchema),
   ("VmBlueprint", vmBlueprintSchema),
   ("CalmRef", calmRefSchema),
   ("AccountProvider", accountProviderSchema),
   ("AhvVmRecoverySpec", ahvVmRecoverySpecSchema),
   ("AhvVmRecoveryResources", ahvVmRecoveryResourcesSchema),
   ("JobExecutable", jobExecutableSchema),
   ("JobScheduleInfo", jobScheduleInfoSchema),
   ("Job", jobSchema)]

def table : SchemaTable := ⟨fun n => (named.find? (·.1 == n)).map (·.2)⟩

end Blueprints.Schema.Entities
