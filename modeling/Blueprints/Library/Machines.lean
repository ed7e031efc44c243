import Blueprints.Library.Entities
import Blueprints.Value.Operators

namespace Blueprints.Library.Machines
open Build

/-- The text of an optional name in a dictionary given to a card: the absent value stays. -/
def cardRef (entries : List (String × Value)) : Value := textDict entries

def createNic (subnet nfType nicType chain mac ipEndpoints cluster : Value) : Build Value := do
  let mut kwargs : List (String × Value) := []
  if subnet.truthy then
    kwargs := kwargs ++ [("subnet_reference",
      cardRef [("name", subnet), ("kind", .str "subnet"), ("cluster", cluster)])]
  if chain.truthy then
    kwargs := kwargs ++ [("network_function_chain_reference",
      cardRef [("name", chain), ("kind", .str "network_function_chain")])]
  let ips <- iterate ipEndpoints
  if !ips.isEmpty then
    kwargs := kwargs ++ [("ip_endpoint_list",
      .list (ips.map fun ip => textDict [("ip", ip), ("type", .str "ASSIGNED")]))]
  kwargs := kwargs ++ [("network_function_nic_type", nfType), ("nic_type", nicType),
    ("mac_address", mac)]
  pure (.entity (<- makeClass .ahvNic .none [] kwargs))

def subnetNicParams : List (String × Option Value) :=
  [req "subnet", opt "mac_address" (.str ""), opt "ip_endpoints" (.list []), opt "cluster" .none]

/-- The parameters of a network function card. -/
def functionNicParams : List (String × Option Value) :=
  [opt "mac_address" (.str ""), opt "network_function_chain" .none]

/-- A card on a subnet of the given card type and network function type. -/
def subnetNic (nicType nfType : String) (b : Bound) : Build Value :=
  createNic (b.get "subnet") (.str nfType) (.str nicType) .none (b.get "mac_address")
    (b.get "ip_endpoints") (b.get "cluster")

/-- A network function card of the given network function type. -/
def functionNic (nfType : String) (b : Bound) : Build Value :=
  createNic .none (.str nfType) (.str "NETWORK_FUNCTION_NIC") (b.get "network_function_chain")
    (b.get "mac_address") (.list []) .none

/-- The device properties of a disk on an adapter, not yet numbered. -/
def deviceProperties (deviceType adapterType : Value) : Value :=
  textDict [("device_type", deviceType),
    ("disk_address", textDict [("adapter_type", adapterType), ("device_index", .int (-1))])]

/-- A disk that clones the image `imageData`. -/
def imageDisk (deviceType adapterType imageData bootable : Value) : Build Value := do
  if !imageData.truthy then throw (.badValue "Image data not found")
  let kwargs := [("data_source_reference", imageData),
    ("device_properties", deviceProperties deviceType adapterType),
    ("disk_size_mib", .int 0), ("bootable", bootable)]
  pure (.entity (<- makeClass .ahvDisk .none [] kwargs))

/-- A disk that clones an image of the image service, by name. -/
def serviceImageDisk (deviceType adapterType : String) (imageName bootable : Value) :
    Build Value := do
  if !imageName.truthy then exitWith "image_name not provided"
  imageDisk (.str deviceType) (.str adapterType)
    (textDict [("kind", .str "image"), ("name", imageName)]) bootable

/-- The image type that a device of a type needs. -/
def imageTypeOf (deviceType : String) : String :=
  if deviceType == "DISK" then "DISK_IMAGE" else "ISO_IMAGE"

/-- A disk that clones a downloadable image package, whose image type must suit the device. -/
def packageImageDisk (r : Runtime) (deviceType adapterType : String) (pkg bootable : Value) :
    Build Value := do
  if !pkg.truthy then throw (.badValue "vm_disk_package not provided !!!")
  let notPackage : Fault := .wrongType (pkg.toText ++
    " is not of type <class 'calm.dsl.builtins.models.package.PackageType'>")
  let some e := pkg.entity?.filter (·.kind.isA .package) | throw notPackage
  let compiled <- r.compile [] e
  let options <- subscript (.dict (compiled.map fun (k, v) => (.str k, v))) (.str "options")
  let resources <- subscript options (.str "resources")
  let imageType <- subscript resources (.str "image_type")
  if !imageType.isText (imageTypeOf deviceType) then
    throw (.badValue ("Invalid vm image " ++ e.name ++ " supplied in disk"))
  let reference <- getRef e
  let imageData <- match reference with
    | .entity refCls => do
      let d <- r.compile [] refCls
      pure (Value.dict (d.map fun (k, v) => (.str k, v)))
    | v => pure v
  imageDisk (.str deviceType) (.str adapterType) imageData bootable

/-- A disk allocated on the storage container, `size` GiB large. -/
def containerDisk (adapterType : String) (size : Value) : Build Value := do
  let mib <- arith .mul size (.int 1024)
  let kwargs := [("device_properties", deviceProperties (.str "DISK") (.str adapterType)),
    ("disk_size_mib", mib)]
  pure (.entity (<- makeClass .ahvDisk .none [] kwargs))

def emptyCdRom (adapterType : String) : Build Value := do
  let kwargs := [("device_properties", deviceProperties (.str "CDROM") (.str adapterType)),
    ("disk_size_mib", .int 0)]
  pure (.entity (<- makeClass .ahvDisk .none [] kwargs))

def createGpu (vendor mode : String) (deviceId : Value) : Build Value := do
  let kwargs := [("vendor", .str vendor), ("mode", .str mode), ("device_id", deviceId)]
  pure (.entity (<- makeClass .ahvGpu .none [] kwargs))

/-- A guest customization by `sysprep`, with or without joining a domain. -/
def sysprep (installType : String) (withDomain : Bool) (b : Bound) : Build Value := do
  let given := b.get "unattend_xml"
  let filename := b.get "filename"
  let xml <- if !given.truthy && filename.truthy then
      do pure (Value.str (<- Build.readFile filename.toText))
    else pure given
  let pick (k : String) : Value := if withDomain then b.get k else .str ""
  let fields := [("unattend_xml", xml), ("install_type", .str installType),
    ("is_domain", .bool withDomain), ("domain", pick "domain"), ("dns_ip", pick "dns_ip"),
    ("dns_search_path", pick "dns_search_path"),
    ("credential", if withDomain then b.get "credential" else .none)]
  pure (.entity (<- makeClass .ahvGuestCustomization .none [] [("sysprep", textDict fields)]))

/-- A guest customization by cloud-init with the given user data. -/
def cloudInitWith (userData : Value) : Build Value := do
  let kwargs := [("cloud_init", textDict [("user_data", userData)])]
  pure (.entity (<- makeClass .ahvGuestCustomization .none [] kwargs))

/-- The parameters of sysprep customizations that join a domain. -/
def domainParams : List (String × Option Value) :=
  [opt "domain" (.str ""), opt "dns_ip" (.str ""), opt "dns_search_path" (.str ""),
   opt "credential" .none, opt "filename" .none, opt "unattend_xml" (.str "")]

/-- The parameters of sysprep customizations that do not join a domain. -/
def plainSysprepParams : List (String × Option Value) :=
  [opt "filename" .none, opt "unattend_xml" (.str "")]

/-- The parameters of the disk constructors that clone an image by name. -/
def imageParams : List (String × Option Value) :=
  [opt "image_name" .none, opt "bootable" (.bool false)]

/-- The parameters of the disk constructors that clone a package. -/
def packageParams : List (String × Option Value) :=
  [opt "vm_disk_package" .none, opt "bootable" (.bool false)]

/-- The machine part constructors, by the name that a path resolves to. -/
def builtin? (r : Runtime) (name : String) : Option Builtin :=
  let scsiImage (b : Bound) := serviceImageDisk "DISK" "SCSI" (b.get "image_name") (b.get "bootable")
  let ideImage (b : Bound) := serviceImageDisk "CDROM" "IDE" (b.get "image_name") (b.get "bootable")
  match name with
  | "AhvVmNic" | "AhvVmNic.NormalNic" =>
    some (ctor name subnetNicParams (subnetNic "NORMAL_NIC" "INGRESS"))
  | "AhvVmNic.DirectNic" => some (ctor name subnetNicParams (subnetNic "DIRECT_NIC" "INGRESS"))
  | "AhvVmNic.NetworkFunctionNic" => some (ctor name functionNicParams (functionNic "INGRESS"))
  | "normal_ingress_nic" => some (fn name subnetNicParams (subnetNic "NORMAL_NIC" "INGRESS"))
  | "normal_egress_nic" => some (fn name subnetNicParams (subnetNic "NORMAL_NIC" "EGRESS"))
  | "normal_tap_nic" => some (fn name subnetNicParams (subnetNic "NORMAL_NIC" "TAP"))
  | "direct_ingress_nic" => some (fn name subnetNicParams (subnetNic "DIRECT_NIC" "INGRESS"))
  | "direct_egress_nic" => some (fn name subnetNicParams (subnetNic "DIRECT_NIC" "EGRESS"))
  | "direct_tap_nic" => some (fn name subnetNicParams (subnetNic "DIRECT_NIC" "TAP"))
  | "network_function_ingress_nic" => some (fn name functionNicParams (functionNic "INGRESS"))
  | "network_function_egress_nic" => some (fn name functionNicParams (functionNic "EGRESS"))
  | "network_function_tap_nic" => some (fn name functionNicParams (functionNic "TAP"))
  | "AhvVmDisk" | "AhvVmDisk.Disk" | "AhvVmDisk.Disk.Scsi" => some (ctor name imageParams scsiImage)
  | "AhvVmDisk.Disk.Pci" =>
    some (ctor name imageParams fun b =>
      serviceImageDisk "DISK" "PCI" (b.get "image_name") (b.get "bootable"))
  | "AhvVmDisk.CdRom" | "AhvVmDisk.CdRom.Ide" => some (ctor name imageParams ideImage)
  | "AhvVmDisk.CdRom.Sata" =>
    some (ctor name imageParams fun b =>
      serviceImageDisk "CDROM" "SATA" (b.get "image_name") (b.get "bootable"))
  | "disk_scsi_clone_from_image" => some (fn name imageParams scsiImage)
  | "disk_pci_clone_from_image" =>
    some (fn name imageParams fun b =>
      serviceImageDisk "DISK" "PCI" (b.get "image_name") (b.get "bootable"))
  | "cd_rom_ide_clone_from_image" => some (fn name imageParams ideImage)
  | "cd_rom_sata_clone_from_image" =>
    some (fn name imageParams fun b =>
      serviceImageDisk "CDROM" "SATA" (b.get "image_name") (b.get "bootable"))
  | "disk_scsi_clone_from_pkg_image" =>
    some (fn name packageParams fun b =>
      packageImageDisk r "DISK" "SCSI" (b.get "vm_disk_package") (b.get "bootable"))
  | "disk_pci_clone_from_pkg_image" =>
    some (fn name packageParams fun b =>
      packageImageDisk r "DISK" "PCI" (b.get "vm_disk_package") (b.get "bootable"))
  | "cd_rom_ide_clone_from_pkg_image" =>
    some (fn name packageParams fun b =>
      packageImageDisk r "CDROM" "IDE" (b.get "vm_disk_package") (b.get "bootable"))
  | "cd_rom_sata_clone_from_pkg_image" =>
    some (fn name packageParams fun b =>
      packageImageDisk r "CDROM" "SATA" (b.get "vm_disk_package") (b.get "bootable"))
  | "disk_scsi_allocate_on_container" =>
    some (fn name [opt "size" (.int 8)] fun b => containerDisk "SCSI" (b.get "size"))
  | "disk_pci_allocate_on_container" =>
    some (fn name [opt "size" (.int 8)] fun b => containerDisk "PCI" (b.get "size"))
  | "cd_rom_ide_use_empty_cd_rom" => some (fn name [] fun _ => emptyCdRom "IDE")
  | "cd_rom_sata_use_empty_cd_rom" => some (fn name [] fun _ => emptyCdRom "SATA")
  | "amd_gpu_pass_through_graphic_mode" =>
    some (fn name [opt "device_id" (.int (-1))] fun b =>
      createGpu "AMD" "PASSTHROUGH_GRAPHICS" (b.get "device_id"))
  | "amd_gpu_pass_through_compute_mode" =>
    some (fn name [opt "device_id" (.int (-1))] fun b =>
      createGpu "AMD" "PASSTHROUGH_COMPUTE" (b.get "device_id"))
  | "amd_gpu_virtual_mode" =>
    some (fn name [opt "device_id" (.int (-1))] fun b => createGpu "AMD" "VIRTUAL" (b.get "device_id"))
  | "intel_gpu_pass_through_graphic_mode" =>
    some (fn name [opt "device_id" (.int (-1))] fun b =>
      createGpu "INTEL" "PASSTHROUGH_GRAPHICS" (b.get "device_id"))
  | "intel_gpu_pass_through_compute_mode" =>
    some (fn name [opt "device_id" (.int (-1))] fun b =>
      createGpu "INTEL" "PASSTHROUGH_COMPUTE" (b.get "device_id"))
  | "intel_gpu_virtual_mode" =>
    some (fn name [opt "device_id" (.int (-1))] fun b =>
      createGpu "INTEL" "VIRTUAL" (b.get "device_id"))
  | "nvidia_gpu_pass_through_graphic_mode" =>
    some (fn name [opt "device_id" (.int (-1))] fun b =>
      createGpu "NVIDIA" "PASSTHROUGH_GRAPHICS" (b.get "device_id"))
  | "nvidia_gpu_pass_through_compute_mode" =>
    some (fn name [opt "device_id" (.int (-1))] fun b =>
      createGpu "NVIDIA" "PASSTHROUGH_COMPUTE" (b.get "device_id"))
  | "nvidia_gpu_virtual_mode" =>
    some (fn name [opt "device_id" (.int (-1))] fun b =>
      createGpu "NVIDIA" "VIRTUAL" (b.get "device_id"))
  | "AhvVmGC.Sysprep" | "AhvVmGC.Sysprep.FreshScript" =>
    some (ctor name plainSysprepParams (sysprep "FRESH" false))
  | "AhvVmGC.Sysprep.PreparedScript" =>
    some (ctor name plainSysprepParams (sysprep "PREPARED" false))
  | "fresh_sys_prep_with_domain" => some (fn name domainParams (sysprep "FRESH" true))
  | "fresh_sys_prep_without_domain" => some (fn name plainSysprepParams (sysprep "FRESH" false))
  | "prepared_sys_prep_with_domain" => some (fn name domainParams (sysprep "PREPARED" true))
  | "prepared_sys_prep_without_domain" =>
    some (fn name plainSysprepParams (sysprep "PREPARED" false))
  | _ => none

/-- The members of the machine part classes: nested classes and the functions they name. -/
def member? (owner attr : String) : Option String :=
  match owner, attr with
  | "AhvVmNic", "NormalNic" => some "AhvVmNic.NormalNic"
  | "AhvVmNic", "DirectNic" => some "AhvVmNic.DirectNic"
  | "AhvVmNic", "NetworkFunctionNic" => some "AhvVmNic.NetworkFunctionNic"
  | "AhvVmNic.NormalNic", "ingress" => some "normal_ingress_nic"
  | "AhvVmNic.NormalNic", "egress" => some "normal_egress_nic"
  | "AhvVmNic.NormalNic", "tap" => some "normal_tap_nic"
  | "AhvVmNic.DirectNic", "ingress" => some "direct_ingress_nic"
  | "AhvVmNic.DirectNic", "egress" => some "direct_egress_nic"
  | "AhvVmNic.DirectNic", "tap" => some "direct_tap_nic"
  | "AhvVmNic.NetworkFunctionNic", "ingress" => some "network_function_ingress_nic"
  | "AhvVmNic.NetworkFunctionNic", "egress" => some "network_function_egress_nic"
  | "AhvVmNic.NetworkFunctionNic", "tap" => some "network_function_tap_nic"
  | "AhvVmDisk", "Disk" => some "AhvVmDisk.Disk"
  | "AhvVmDisk", "CdRom" => some "AhvVmDisk.CdRom"
  | "AhvVmDisk.Disk", "Scsi" => some "AhvVmDisk.Disk.Scsi"
  | "AhvVmDisk.Disk", "Pci" => some "AhvVmDisk.Disk.Pci"
  | "AhvVmDisk.CdRom", "Ide" => some "AhvVmDisk.CdRom.Ide"
  | "AhvVmDisk.CdRom", "Sata" => some "AhvVmDisk.CdRom.Sata"
  | "AhvVmDisk.Disk.Scsi", "cloneFromImageService" => some "disk_scsi_clone_from_image"
  | "AhvVmDisk.Disk.Scsi", "allocateOnStorageContainer" => some "disk_scsi_allocate_on_container"
  | "AhvVmDisk.Disk.Scsi", "cloneFromVMDiskPackage" => some "disk_scsi_clone_from_pkg_image"
  | "AhvVmDisk.Disk.Pci", "cloneFromImageService" => some "disk_pci_clone_from_image"
  | "AhvVmDisk.Disk.Pci", "allocateOnStorageContainer" => some "disk_pci_allocate_on_container"
  | "AhvVmDisk.Disk.Pci", "cloneFromVMDiskPackage" => some "disk_pci_clone_from_pkg_image"
  | "AhvVmDisk.CdRom.Ide", "cloneFromImageService" => some "cd_rom_ide_clone_from_image"
  | "AhvVmDisk.CdRom.Ide", "emptyCdRom" => some "cd_rom_ide_use_empty_cd_rom"
  | "AhvVmDisk.CdRom.Ide", "cloneFromVMDiskPackage" => some "cd_rom_ide_clone_from_pkg_image"
  | "AhvVmDisk.CdRom.Sata", "cloneFromImageService" => some "cd_rom_sata_clone_from_image"
  | "AhvVmDisk.CdRom.Sata", "emptyCdRom" => some "cd_rom_sata_use_empty_cd_rom"
  | "AhvVmDisk.CdRom.Sata", "cloneFromVMDiskPackage" => some "cd_rom_sata_clone_from_pkg_image"
  | "AhvVmGpu", "Amd" => some "AhvVmGpu.Amd"
  | "AhvVmGpu", "Intel" => some "AhvVmGpu.Intel"
  | "AhvVmGpu", "Nvidia" => some "AhvVmGpu.Nvidia"
  | "AhvVmGpu.Amd", "passThroughGraphic" => some "amd_gpu_pass_through_graphic_mode"
  | "AhvVmGpu.Amd", "passThroughCompute" => some "amd_gpu_pass_through_compute_mode"
  | "AhvVmGpu.Amd", "virtual" => some "amd_gpu_virtual_mode"
  | "AhvVmGpu.Intel", "passThroughGraphic" => some "intel_gpu_pass_through_graphic_mode"
  | "AhvVmGpu.Intel", "passThroughCompute" => some "intel_gpu_pass_through_compute_mode"
  | "AhvVmGpu.Intel", "virtual" => some "intel_gpu_virtual_mode"
  | "AhvVmGpu.Nvidia", "passThroughGraphic" => some "nvidia_gpu_pass_through_graphic_mode"
  | "AhvVmGpu.Nvidia", "passThroughCompute" => some "nvidia_gpu_pass_through_compute_mode"
  | "AhvVmGpu.Nvidia", "virtual" => some "nvidia_gpu_virtual_mode"
  | "AhvVmGC", "CloudInit" => some "AhvVmGC.CloudInit"
  | "AhvVmGC", "Sysprep" => some "AhvVmGC.Sysprep"
  | "AhvVmGC.Sysprep", "FreshScript" => some "AhvVmGC.Sysprep.FreshScript"
  | "AhvVmGC.Sysprep", "PreparedScript" => some "AhvVmGC.Sysprep.PreparedScript"
  | "AhvVmGC.Sysprep.FreshScript", "withDomain" => some "fresh_sys_prep_with_domain"
  | "AhvVmGC.Sysprep.FreshScript", "withoutDomain" => some "fresh_sys_prep_without_domain"
  | "AhvVmGC.Sysprep.PreparedScript", "withDomain" => some "prepared_sys_prep_with_domain"
  | "AhvVmGC.Sysprep.PreparedScript", "withoutDomain" => some "prepared_sys_prep_without_domain"
  | _, _ => none

/-- The names of the namespace that this module defines. -/
def names : List String := ["AhvVmNic", "AhvVmDisk", "AhvVmGpu", "AhvVmGC"]

end Blueprints.Library.Machines
