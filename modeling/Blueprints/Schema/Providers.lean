import Blueprints.Schema.Basic

namespace Blueprints.Schema.Providers

/-- The guest customization of the AHV_VM provider: none, a cloud-init script or a Sysprep
    script. -/
def ahvVmGuestCustomization : Schema :=
  { anyOf := some [{ type := ["null"], typeIsList := true }, .refTo "cloud_init_script",
      .refTo "sys_prep_script"] }

/-- The provider spec schema of the AHV_VM provider. -/
def ahvVmProviderSpec : Schema :=
  .object [
    ("name", .text), ("categories", { type := ["object", "string"], typeIsList := true }),
    ("resources", .object [
      ("account_uuid", .text), ("type", .text),
      ("nic_list", .arrayOf (
        .object [
          ("network_function_nic_type", {
            type := ["string"], default := some (.str "INGRESS"),
            enum := some [.str "INGRESS", .str "EGRESS", .str "TAP"] }),
          ("nic_type", {
            type := ["string"], default := some (.str "NORMAL_NIC"),
            enum := some [.str "NORMAL_NIC", .str "DIRECT_NIC", .str "NETWORK_FUNCTION_NIC"] }),
          ("type", .text),
          ("subnet_reference", .reference (.textOr "subnet")),
          ("network_function_chain_reference", .reference (.textOr "network_function_chain")),
          ("mac_address", .text),
          ("ip_endpoint_list", .arrayOf (
            .object [
              ("ip", .text),
              ("type", {
                type := ["string"], default := some (.str "ASSIGNED"),
                enum := some [.str "ASSIGNED", .str "LEARNED"] })]))])),
      ("num_vcpus_per_socket", .integer), ("num_sockets", .integer), ("memory_size_mib", .integer),
      ("cluster_uuid", .text),
      ("power_state", { type := ["string"], enum := some [.str "ON", .str "OFF"] }),
      ("gpu_list", .arrayOf (
        .object [("vendor", .text), ("mode", .text), ("device_id", .integer), ("type", .text)])),
      ("hardware_clock_timezone", .text),
      ("parent_reference", .reference .text),
      ("guest_tools", .nullObjectOf [
          ("type", .text),
          ("nutanix_guest_tools", .object [
            ("state", .text), ("version", .text), ("ngt_state", .text), ("iso_mount_state", .text),
            ("type", .text),
            ("credentials", .object [("username", .text), ("password", .text), ("type", .text)]),
            ("enabled_capability_list", .arrayOf .text)])]),
      ("disk_list", .arrayOf (
        .object [
          ("data_source_reference", .nullObjectOf [
              ("name", .text),
              ("kind", { type := ["string"], enum := some [.str "image", .str "app_package"] }),
              ("uuid", .text), ("type", .text)]), ("type", .text),
          ("device_properties", .object [
            ("device_type", .text), ("type", .text),
            ("disk_address", .object [
              ("device_index", .integer), ("adapter_type", .text), ("type", .text)])]),
          ("disk_size_mib", { type := ["integer"], default := some (.int 0) }),
          ("volume_group_reference", .nullObjectOf [
              ("name", .text), ("kind", .text), ("uuid", .text), ("type", .text)])])),
      ("boot_config", .nullObjectOf [
          ("boot_device", .object [
            ("type", .text),
            ("disk_address", .object [
              ("type", .text), ("device_index", .integer), ("adapter_type", .text)])]),
          ("boot_type", { type := ["string"], enum := some [.str "LEGACY", .str "UEFI", .str ""] }),
          ("type", .text), ("mac_address", .text)]),
      ("guest_customization", ahvVmGuestCustomization),
      ("serial_port_list", .arrayOf (
        .object [("index", .integer), ("is_connected", .flag), ("type", .text)]))]),
    ("type", .text),
    ("cluster_reference", .reference (.textOr "cluster")),
    ("availability_zone_reference", .reference (.textOr "availability_zone")),
    ("backup_policy", .nullObjectOf [
        ("type", .text), ("default_snapshot_type", .text), ("consistency_group_identifier", .text),
        ("snapshot_policy_list", .arrayOf (
          .object [
            ("type", .text),
            ("replication_target", .object [
              ("cluster_reference", .reference (.textOr "cluster")),
              ("availability_zone_reference", .reference (.textOr "availability_zone"))]),
            ("snapshot_schedule_list", .arrayOf (
              .object [
                ("type", .text), ("remote_retention_quantity", .integer), ("snapshot_type", .text),
                ("local_retention_quantity", .integer),
                ("schedule", .object [
                  ("type", .text), ("is_suspended", .truth), ("interval_multiple", .integer),
                  ("duration_secs", .integer), ("end_time", .integer), ("interval_type", .text)])]))]))])]

/-- The cloud init script schema of the AHV_VM provider. -/
def ahvVmCloudInitScript : Schema :=
  .object [
    ("cloud_init", .object [("user_data", .text), ("meta_data", .text), ("type", .text)]),
    ("sysprep", { type := ["null"], typeIsList := true }), ("type", .text)]

/-- The sys prep script schema of the AHV_VM provider. -/
def ahvVmSysPrepScript : Schema :=
  .object [
    ("cloud_init", { type := ["null"], typeIsList := true }), ("type", .text),
    ("sysprep", .object [
      ("unattend_xml", .text),
      ("install_type", { type := ["string"], enum := some [.str "PREPARED", .str "FRESH"] }),
      ("is_domain", .truth), ("domain", .text), ("dns_ip", .text), ("dns_search_path", .text),
      ("type", .text),
      ("domain_credential_reference", .reference (.textOr "subnet"))])]

/-- The named schemas of the AHV_VM provider. -/
def ahvVmTable : SchemaTable :=
  ⟨fun n => ([("provider_spec", ahvVmProviderSpec), ("cloud_init_script", ahvVmCloudInitScript), ("sys_prep_script", ahvVmSysPrepScript)].find? (·.1 == n)).map (·.2)⟩

def awsVmDisk : Schema :=
  .object [
    ("device_name", .text), ("size_gb", .integer),
    ("volume_type", {
      type := ["string"],
      enum := some [.str "IO1", .str "STANDARD", .str "SC1", .str "ST1", .str "GP2"] }),
    ("delete_on_termination", .truth), ("iops", .integer), ("snapshot_id", .text),
    ("type", .text)]

/-- The provider spec schema of the AWS_VM provider. -/
def awsVmProviderSpec : Schema :=
  .object [
    ("name", .text),
    ("type", {
      type := ["string"], default := some (.str "PROVISION_AWS_VM"),
      enum := some [.str "PROVISION_AWS_VM", .str ""] }),
    ("resources", .object [
      ("account_uuid", .text), ("name", .text), ("instance_type", .text), ("key_name", .text),
      ("instance_profile_name", .text), ("availability_zone", .text), ("vpc_id", .text),
      ("associate_public_ip_address", .truth), ("region", .text), ("private_ip_address", .text),
      ("type", .text),
      ("security_group_list", .arrayOf (.object [("security_group_id", .text), ("type", .text)])),
      ("subnet_id", .text), ("instance_initiated_shutdown_behavior", .text), ("image_id", .text),
      ("user_data", .textUpTo 16000), ("state", .text),
      ("tag_list", .arrayOf (.object [("key", .text), ("value", .text), ("type", .text)])),
      ("block_device_map", .object [
        ("root_disk", awsVmDisk), ("type", .text), ("data_disk_list", .arrayOf awsVmDisk)])]),
    ("cluster_reference", .reference (.textOr "cluster")),
    ("availability_zone_reference", .reference (.textOr "availability_zone")),
    ("backup_policy", .nullObjectOf [
        ("default_snapshot_type", .text), ("consistency_group_identifier", .text), ("type", .text),
        ("snapshot_policy_list", .arrayOf (
          .object [
            ("type", .text),
            ("replication_target", .object [
              ("cluster_reference", .reference (.textOr "cluster")),
              ("availability_zone_reference", .reference (.textOr "availability_zone"))]),
            ("snapshot_schedule_list", .arrayOf (
              .object [
                ("remote_retention_quantity", .integer), ("snapshot_type", .text),
                ("local_retention_quantity", .integer), ("type", .text),
                ("schedule", .object [
                  ("is_suspended", .truth), ("interval_multiple", .integer),
                  ("duration_secs", .integer), ("end_time", .integer), ("interval_type", .text),
                  ("type", .text)])]))]))])]

/-- The named schemas of the AWS_VM provider. -/
def awsVmTable : SchemaTable :=
  ⟨fun n => ([("provider_spec", awsVmProviderSpec)].find? (·.1 == n)).map (·.2)⟩

/-- The provider spec schema of the AZURE_VM provider. -/
def azureVmProviderSpec : Schema :=
  .object [
    ("name", .text),
    ("type", {
      type := ["string"], default := some (.str "PROVISION_AZURE_VM"),
      enum := some [.str "PROVISION_AZURE_VM", .str ""] }),
    ("resources", .object [
      ("vm_name", .text), ("resource_group", .text),
      ("rg_details", .object [
        ("delete_rg_if_empty", .truth), ("rg_location", .text),
        ("rg_tag_list", { type := ["array"] }), ("type", .text)]), ("rg_operation", .text),
      ("account_uuid", .text), ("type", .text), ("location", .text), ("availability_set_id", .text),
      ("availability_option", .text), ("availability_zone", .text),
      ("tag_list", .arrayOf (.object [("key", .text), ("value", .text), ("type", .text)])),
      ("hw_profile", .object [
        ("vm_size", .text), ("max_data_disk_count", .integer), ("type", .text)]),
      ("storage_profile", .object [
        ("is_managed", .truth),
        ("data_disk_list", .arrayOf (
          .object [
            ("name", .text), ("storage_name", .text), ("storage_type", .text),
            ("caching_type", .text), ("create_option", .textOr "Empty"),
            ("size_in_gb", { type := ["integer"], minimum := some 1 }),
            ("lun", { type := ["integer"], minimum := some 0 }), ("type", .text)])),
        ("type", .text),
        ("os_disk_details", .object [
          ("name", .text), ("storage_name", .text), ("storage_type", .text),
          ("caching_type", .text), ("create_option", .text),
          ("size_in_gb", { type := ["integer"], default := some (.int (-1)) }),
          ("lun", { type := ["integer"], default := some (.int (-1)) }), ("type", .text)]),
        ("image_details", .object [
          ("sku", .text), ("publisher", .text), ("offer", .text), ("source_image_id", .text),
          ("use_custom_image", .truth), ("version", .text), ("type", .text),
          ("source_image_type", .text)])]),
      ("os_profile", .object [
        ("windows_config", .nullObjectOf [
            ("winrm_listeners", .arrayOf (
              .object [("protocol", .text), ("certificate_url", .text), ("type", .text)])),
            ("time_zone", .text),
            ("additional_unattend_content", .arrayOf (
              .object [("setting_name", .text), ("xml_content", .text), ("type", .text)])),
            ("provision_vm_agent", { type := ["boolean"], default := some (.bool true) }),
            ("auto_updates", .flag), ("type", .text)]),
        ("linux_config", .nullObjectOf [
            ("custom_data", .text), ("disable_password_auth", .flag),
            ("public_keys", .arrayOf .text), ("type", .text)]),
        ("secrets", .arrayOf (
          .object [
            ("source_vault_id", .text), ("type", .text),
            ("vault_certificates", .arrayOf (
              .object [("certificate_url", .text), ("certificate_store", .text), ("type", .text)]))])),
        ("type", .text)]),
      ("nw_profile", .object [
        ("nic_list", .arrayOf (
          .object [
            ("nic_name", .text), ("vnet_name", .text), ("nsg_name", .text), ("subnet_name", .text),
            ("vnet_id", .text), ("nsg_id", .text), ("subnet_id", .text),
            ("private_ip_info", .object [
              ("ip_allocation_method", .text), ("ip_address", .text), ("type", .text)]),
            ("public_ip_info", .nullObjectOf [
                ("ip_allocation_method", {
                  type := ["string"], enum := some [.str "Dynamic", .str "Static"] }),
                ("ip_name", .text), ("dns_label", .text), ("type", .text)]), ("type", .text)])),
        ("type", .text), ("primary_nic", { type := ["integer"], default := some (.int (-1)) })])])]

/-- The named schemas of the AZURE_VM provider. -/
def azureVmTable : SchemaTable :=
  ⟨fun n => ([("provider_spec", azureVmProviderSpec)].find? (·.1 == n)).map (·.2)⟩

/-- The provider spec schema of the GCP_VM provider. -/
def gcpVmProviderSpec : Schema :=
  .object [
    ("type", {
      type := ["string"], default := some (.str "PROVISION_GCP_VM"),
      enum := some [.str "PROVISION_GCP_VM", .str ""] }),
    ("resources", .object [
      ("name", .text), ("type", .text), ("description", .text),
      ("tags", .object [("fingerprint", .text), ("items", .arrayOf .text), ("type", .text)]),
      ("machineType", .text), ("zone", .text), ("account_uuid", .text), ("canIpForward", .truth),
      ("networkInterfaces", .arrayOf (
        .object [
          ("type", .text), ("network", .text), ("subnetwork", .text), ("networkIP", .text),
          ("associatePublicIP", { type := ["boolean"], default := some (.bool true) }),
          ("accessConfigs", .arrayOf (
            .object [("config_type", .text), ("name", .text), ("natIP", .text), ("type", .text)])),
          ("aliasIpRanges", .arrayOf (
            .object [("ipCidrRange", .text), ("subnetworkRangeName", .text), ("type", .text)]))])),
      ("disks", .arrayOf (
        .object [
          ("type", .text), ("disk_type", .text), ("mode", .text), ("deviceName", .text),
          ("source", .text), ("interface", .text), ("boot", .flag),
          ("initializeParams", .object [
            ("diskName", .text), ("sourceImage", .text),
            ("diskSizeGb", { type := ["integer"], default := some (.int (-1)) }),
            ("diskType", .text), ("type", .text),
            ("sourceImageEncryptionKey", .object [("rawKey", .text), ("type", .text)])]),
          ("autoDelete", .flag), ("diskEncryptionKey", .object [("rawKey", .text), ("type", .text)])])),
      ("blankDisks", .arrayOf (
        .object [
          ("disk_type", .text), ("autoDelete", .truth), ("name", .text),
          ("sizeGb", { type := ["integer"], default := some (.int (-1)) }), ("type", .text)])),
      ("metadata", .object [
        ("type", .text), ("fingerprint", .text),
        ("items", .arrayOf (.object [("key", .text), ("value", .text), ("type", .text)]))]),
      ("serviceAccounts", .arrayOf (
        .object [("email", .text), ("scopes", .arrayOf .text), ("type", .text)])),
      ("scheduling", .object [
        ("onHostMaintenance", .textOr "TERMINATE"), ("automaticRestart", .truth),
        ("preemptible", .truth), ("type", .text)]),
      ("labels", .arrayOf (.object [("key", .text), ("value", .text), ("type", .text)])),
      ("labelFingerprint", .text), ("minCpuPlatform", .text), ("sshKeys", .arrayOf .text),
      ("guestCustomization", .object [("startupScript", .text), ("sysprep", .text), ("type", .text)])])]

/-- The named schemas of the GCP_VM provider. -/
def gcpVmTable : SchemaTable :=
  ⟨fun n => ([("provider_spec", gcpVmProviderSpec)].find? (·.1 == n)).map (·.2)⟩

/-- A password of the guest customization of the VMWARE_VM provider. -/
def vmwareVmSecret : Schema :=
  .nullObjectOf [
    ("attrs", .nullObjectOf [
      ("is_secret_modified", { type := ["boolean"], default := some (.bool false) }),
      ("secret_reference", { nullObject with default := some (.obj []) }),
      ("type", .text)]), ("value", .text), ("type", .text)]

/-- The provider spec schema of the VMWARE_VM provider. -/
def vmwareVmProviderSpec : Schema :=
  .nullObjectOf [
      ("name", .text),
      ("type", {
        type := ["string"], default := some (.str "PROVISION_VMWARE_VM"),
        enum := some [.str "PROVISION_VMWARE_VM", .str ""] }), ("drs_mode", .flag),
      ("compute_drs_mode", .flag), ("storage_drs_mode", .flag), ("cluster", .text),
      ("template", .text), ("storage_pod", .text), ("host", .text), ("datastore", .text),
      ("clone_is_template", .flag),
      ("folder", .nullObjectOf [
          ("existing_path", .text), ("new_path", .text), ("delete_empty_folder", .truth),
          ("type", .text)]),
      ("resources", .nullObjectOf [
          ("account_uuid", .text), ("cpu_hot_add", .truth),
          ("num_vcpus_per_socket", { type := ["integer"], default := some (.int 0) }),
          ("num_sockets", { type := ["integer"], default := some (.int 0) }),
          ("memory_hot_plug", .truth),
          ("memory_size_mib", { type := ["integer"], default := some (.int 0) }),
          ("power_state", .textOr "poweron"), ("type", .text),
          ("nic_list", .arrayOf (.nullObjectOf [
              ("nic_type", .text), ("net_name", .text), ("type", .text)])),
          ("disk_list", .arrayOf (.nullObjectOf [
              ("disk_type", .textOr "disk"), ("adapter_type", .textOr "SCSI"),
              ("disk_size_mb", { type := ["integer", "null"], typeIsList := true }),
              ("disk_mode", .textOr "persistent"), ("location", .blank),
              ("controller_key", .integer),
              ("device_slot", { type := ["integer", "string"], typeIsList := true }),
              ("iso_path", .blank), ("type", .text)])),
          ("controller_list", .arrayOf (.nullObjectOf [
              ("controller_type", .text),
              ("key", { type := ["integer"], default := some (.int (-1)) }), ("bus_sharing", .text),
              ("type", .text)])),
          ("template_nic_list", .arrayOf (.nullObjectOf [
              ("nic_type", .text), ("net_name", .text), ("is_deleted", .flag),
              ("key", { type := ["integer"], default := some (.int (-1)) }), ("type", .text)])),
          ("tag_list", .arrayOf (.nullObjectOf [("tag_id", .text), ("type", .text)])),
          ("template_disk_list", .arrayOf (.nullObjectOf [
              ("disk_type", .textOr "disk"), ("adapter_type", .textOr "SCSI"),
              ("disk_size_mb", { type := ["integer", "null"], typeIsList := true }),
              ("disk_mode", .text), ("location", .blank),
              ("controller_key", { type := ["integer"], default := some (.int (-1)) }),
              ("device_slot", {
                type := ["integer", "string"], typeIsList := true, default := some (.int (-1)) }),
              ("iso_path", .blank), ("is_deleted", .flag), ("key", .integer), ("type", .text)])),
          ("template_controller_list", .arrayOf (.nullObjectOf [
              ("controller_type", .text), ("key", .integer), ("bus_sharing", .text),
              ("is_deleted", .flag), ("type", .text)])),
          ("guest_customization", .nullObjectOf [
              ("customization_type", {
                type := ["string"], enum := some [.str "GUEST_OS_LINUX", .str "GUEST_OS_WINDOWS"] }),
              ("cloud_init", .text), ("customization_name", .text),
              ("linux_data", .nullObjectOf [
                  ("hostname", .text), ("domain", .text), ("timezone", .text),
                  ("hw_utc_clock", .truth), ("dns_primary", .text), ("dns_secondary", .text),
                  ("dns_tertiary", .text), ("dns_search_path", .arrayOf .text),
                  ("network_settings", .arrayOf (.nullObjectOf [
                      ("name", .text), ("subnet_mask", .text), ("gateway_default", .text),
                      ("gateway_alternate", .text), ("is_dhcp", .truth), ("ip", .text),
                      ("type", .text)])), ("type", .text)]),
              ("windows_data", .nullObjectOf [
                  ("computer_name", .text), ("product_id", .text), ("full_name", .text),
                  ("organization_name", .text), ("workgroup", .text), ("timezone", .text),
                  ("is_domain", .truth), ("domain", .text), ("domain_user", .text),
                  ("command_list", .arrayOf .text), ("dns_primary", .text),
                  ("dns_secondary", .text), ("dns_tertiary", .text),
                  ("dns_search_path", .arrayOf .text),
                  ("network_settings", .arrayOf (.nullObjectOf [
                      ("name", .text), ("subnet_mask", .text), ("gateway_default", .text),
                      ("gateway_alternate", .text), ("is_dhcp", .truth), ("ip", .text),
                      ("type", .text)])), ("auto_logon", .flag),
                  ("login_count", { type := ["integer"], default := some (.int 1) }),
                  ("type", .text),
                  ("password", vmwareVmSecret), ("domain_password", vmwareVmSecret),
                  ("sysprep", .nullObjectOf [
                      ("unattend_xml", .text), ("is_domain", .truth), ("domain", .text),
                      ("dns_ip", .text), ("dns_search_path", .text),
                      ("domain_credential_reference", .reference (.textOr "subnet")),
                      ("type", .text)])]), ("type", .text)])])]

/-- The named schemas of the VMWARE_VM provider. -/
def vmwareVmTable : SchemaTable :=
  ⟨fun n => ([("provider_spec", vmwareVmProviderSpec)].find? (·.1 == n)).map (·.2)⟩

/-- The provider spec schema of the EXISTING_VM provider. -/
def existingVmProviderSpec : Schema :=
  .object [
    ("type", {
      type := ["string"], default := some (.str "PROVISION_EXISTING_MACHINE"),
      enum := some [.str "PROVISION_EXISTING_MACHINE", .str ""] }), ("address", .text)]

/-- The named schemas of the EXISTING_VM provider. -/
def existingVmTable : SchemaTable :=
  ⟨fun n => ([("provider_spec", existingVmProviderSpec)].find? (·.1 == n)).map (·.2)⟩

/-- The provider spec schema of the K8S_POD provider. -/
def k8sPodProviderSpec : Schema :=
  .object [("name", .text)]

/-- The named schemas of the K8S_POD provider. -/
def k8sPodTable : SchemaTable :=
  ⟨fun n => ([("provider_spec", k8sPodProviderSpec)].find? (·.1 == n)).map (·.2)⟩

end Blueprints.Schema.Providers
