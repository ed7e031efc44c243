import Blueprints.Source.Actions
import Blueprints.Yaml.Render
import Blueprints.Value.Json

namespace Blueprints.Source

open Library Build Templates

/-- The layout of specification files: a plain YAML dump, lines of text as literal blocks. -/
def specLayout : Yaml.Layout := {}

def floorDivide (a b : Value) : Writer Value := arith .floorDiv a b

/-- `int(v)` of a value: integers are kept, truth values and numerals turned into integers. -/
def toInt (v : Value) : Writer Value :=
  match v with
  | .int n => pure (.int n)
  | .bool b => pure (.int (if b then 1 else 0))
  | .str s => match s.trimAscii.toString.toInt? with
    | some n => pure (.int n)
    | none => throw (.badValue ("invalid literal for int() with base 10: " ++ Text.quoted s))
  | v => throw (.wrongType ("int() argument must be a string, a bytes-like object or a " ++
      "number, not '" ++ v.typeName ++ "'"))

def exitWith {α : Type} (msg : String) : Writer α := Build.exitWith msg

/-- A disk written as source; `boot` is the boot configuration of the machine. -/
def diskText (r : Runtime) (disk : Entity) (boot : Value) : Writer String := do
  let source := attrOf disk "data_source_reference"
  let source <- if source.truthy then dictOf r source else pure (.dict [])
  let props <- dictOf r (attrOf disk "device_properties")
  let deviceType <- item props "device_type"
  let address <- item props "disk_address"
  let adapterType <- item address "adapter_type"
  let adapterIndex <- item address "device_index"
  let mut obj : List (String × Value) := []
  if boot.truthy then
    let bootAddress <- item (<- item boot "boot_device") "disk_address"
    if adapterType.equal (<- item bootAddress "adapter_type") &&
        adapterIndex.equal (<- item bootAddress "device_index") then
      obj := assoc obj "bootable" (.bool true)
  let mut operation := ""
  if source.truthy then
    let kind <- item source "kind"
    if kind.isText "app_package" then
      let name <- getOr source "name" .none
      let mapped <- classNameOf "Package" name.toText
      obj := assoc obj "name" (match mapped with
        | some n => if n.isEmpty then name else .str n
        | none => name)
      operation := "cloneFromVMDiskPackage"
    else if kind.isText "image" then
      operation := "cloneFromImageService"
      let uuid <- getOr source "uuid" .none
      let image := (<- getThe Session).cache.images.find? fun i => Value.isText uuid i.uuid
      if image.isNone then
        logWarning ("Image with uuid '" ++ uuid.toText ++ "' not found")
      obj := assoc obj "name" (.str ((image.map (·.name)).getD ""))
    else
      logError ("Unknown kind " ++ "\x60" ++ kind.toText ++ "\x60" ++
        " for data source reference in image")
  else if deviceType.isText "DISK" then
    obj := assoc obj "size" (<- floorDivide (attrOf disk "disk_size_mib") (.int 1024))
    operation := "allocateOnStorageContainer"
  else if deviceType.isText "CDROM" then
    operation := "emptyCdRom"
  else exitWith "Unknown device type"
  let unknownOperation : Writer String :=
    if operation.isEmpty then throw (.unboundLocal
      "local variable 'operation_type' referenced before assignment")
    else exitWith ("Unknown operation type " ++ operation)
  let template <- if deviceType.isText "DISK" then
      if adapterType.isText "SCSI" then
        match operation with
        | "cloneFromImageService" => pure ahvVmDiskScsiCloneFromImage
        | "cloneFromVMDiskPackage" => pure ahvVmDiskScsiCloneFromPkg
        | "allocateOnStorageContainer" => pure ahvVmDiskScsiAllocateContainer
        | _ => unknownOperation
      else if adapterType.isText "PCI" then
        match operation with
        | "cloneFromImageService" => pure ahvVmDiskPciCloneFromImage
        | "cloneFromVMDiskPackage" => pure ahvVmDiskPciCloneFromPkg
        | "allocateOnStorageContainer" => pure ahvVmDiskPciAllocateContainer
        | _ => unknownOperation
      else exitWith ("Unknown adapter type " ++ adapterType.toText)
    else if adapterType.isText "SATA" then
      match operation with
      | "cloneFromImageService" => pure ahvVmCdromSataCloneFromImage
      | "cloneFromVMDiskPackage" => pure ahvVmCdromSataCloneFromPkg
      | "emptyCdRom" => pure ahvVmCdromSataEmptyCdrom
      | _ => unknownOperation
    else if adapterType.isText "IDE" then
      match operation with
      | "cloneFromImageService" => pure ahvVmCdromIdeCloneFromImage
      | "cloneFromVMDiskPackage" => pure ahvVmCdromIdeCloneFromPkg
      | "emptyCdRom" => pure ahvVmCdromIdeEmptyCdrom
      | _ => unknownOperation
    else exitWith ("Unknown adapter type " ++ adapterType.toText)
  fill template obj

def nicText (r : Runtime) (nic : Entity) : Writer String := do
  let subnet := attrOf nic "subnet_reference"
  let subnet <- if subnet.truthy then dictOf r subnet else pure subnet
  let uuid <- match subnet with
    | .none => throw (.missingAttribute "'NoneType' object has no attribute 'get'")
    | s => getOr s "uuid" (.str "")
  let uuidText <- match uuid with
    | .str u => pure u
    | v => throw (.missingAttribute ("'" ++ v.typeName ++
        "' object has no attribute 'startswith'"))
  let mut obj : List (String × Value) := []
  if uuidText.startsWith "@@\x7b" && uuidText.endsWith "\x7d@@" then
    obj := assoc obj "subnet_name" uuid
  else
    let some row := (<- getThe Session).cache.subnets.find? (·.uuid == uuidText)
      | exitWith ("Subnet with uuid '" ++ uuidText ++ "' not found")
    obj := assoc (assoc obj "subnet_name" (.str row.name)) "cluster_name" (.str row.cluster)
  let nicType := (attrOf nic "nic_type").toText
  let functionType := (attrOf nic "network_function_nic_type").toText
  let unknownFunction : Writer String :=
    exitWith ("Unknown network function nic type '" ++ functionType ++ "'")
  let cardClass <- match nicType with
    | "NORMAL_NIC" => pure "NormalNic"
    | "DIRECT_NIC" => pure "DirectNic"
    | _ => exitWith ("Unknown nic type '" ++ nicType ++ "'")
  let template <- match functionType with
    | "INGRESS" | "EGRESS" | "TAP" => pure (ahvNic cardClass functionType.toLower)
    | _ => unknownFunction
  fill template obj

def gpuText (r : Runtime) (gpu : Value) : Writer String := do
  let data <- dictOf r gpu
  let vendor <- item data "vendor"
  let vendorKey <- match vendor.toText with
    | "AMD" => pure "Amd"
    | "INTEL" => pure "Intel"
    | "NVIDIA" => pure "Nvidia"
    | v => exitWith ("Unknown GPU vendor '" ++ v ++ "'")
  let mode <- item data "mode"
  let modeKey <- match mode.toText with
    | "PASSTHROUGH_GRAPHICS" => pure "passThroughGraphic"
    | "PASSTHROUGH_COMPUTE" => pure "passThroughCompute"
    | "VIRTUAL" => pure "virtual"
    | m => exitWith ("Unknown GPU mode '" ++ m ++ "'")
  fill ahvVmGpu [("vendor_key", .str vendorKey), ("mode_key", .str modeKey),
    ("device_id", <- getOr data "device_id" (.int 0))]

/-- A guest customization written as source, or nothing when it has no data; its files are
    named after the machine. -/
def customizationText (r : Runtime) (gc : Value) (vmName : String) : Writer (Option String) := do
  let data <- dictOf r gc
  let mut obj <- entries data
  let cloudInit <- getOr data "cloud_init" (.dict [])
  let sysprep <- getOr data "sysprep" (.dict [])
  if cloudInit.truthy then
    let fileName := vmName ++ "_cloud_init_data.yaml"
    obj := dictPut obj "filename" (.str ("os.path.join('specs', '" ++ fileName ++ "')"))
    let userData <- getOr cloudInit "user_data" (.str "")
    if !userData.truthy then return none
    writeFile ("specs/" ++ fileName) (Yaml.render specLayout (<- plainJson userData))
    some <$> fill ahvVmCloudInit (obj.map fun (k, v) => (k.toText, v))
  else if sysprep.truthy then
    let fileName := vmName ++ "_sysprep_unattend_xml.xml"
    obj := dictPut obj "filename" (.str ("os.path.join('specs', '" ++ fileName ++ "')"))
    match <- getOr sysprep "unattend_xml" (.str "") with
    | .str xml => writeFile ("specs/" ++ fileName) xml
    | v => throw (.wrongType ("write() argument must be str, not " ++ v.typeName))
    let installType <- getOr sysprep "install_type" (.str "PREPARED")
    let isDomain := (<- getOr sysprep "is_domain" (.bool false)).truthy
    if isDomain then
      let credRef <- getOr sysprep "domain_credential_reference" .none
      if credRef.truthy then
        let cred <- Decompile.decompile r .ref credRef
        obj := dictPut obj "credential" (.str ("ref(" ++ (<- credentialVar (displayName cred)) ++ ")"))
    let template <- match installType.toText with
      | "FRESH" => pure (if isDomain then ahvVmFreshSysprepWithDomain
          else ahvVmFreshSysprepWithoutDomain)
      | "PREPARED" => pure (if isDomain then ahvVmPreparedSysprepWithDomain
          else ahvVmPreparedSysprepWithoutDomain)
      | t => exitWith ("Unknown install type '" ++ t ++ "' for sysprep guest customization")
    some <$> fill template (obj.map fun (k, v) => (k.toText, v))
  else pure none
where
  plainJson (v : Value) : Writer Json :=
    match v.toJson with
    | .ok j => pure j
    | .error f => throw f

/-- The resources class of a machine written as source, under the name `name`. -/
def resourcesText (r : Runtime) (res : Entity) (name : String) (boot : Value) (vmName : String) :
    Writer String := do
  let mut obj := assoc (userAttrs res) "name" (.str name)
  let some memory := lookup obj "memory" | throw (.missingKey "'memory'")
  obj := assoc obj "memory" (<- floorDivide (<- toInt memory) (.int 1024))
  let mut disks : List String := []
  for d in <- iterate (attrOf res "disks") do
    match d with
    | .entity e => disks := disks ++ [<- diskText r e boot]
    | v => throw (.missingAttribute ("'" ++ v.typeName ++
        "' object has no attribute 'data_source_reference'"))
  let mut nics : List String := []
  for n in <- iterate (attrOf res "nics") do
    match n with
    | .entity e => nics := nics ++ [<- nicText r e]
    | v => throw (.missingAttribute ("'" ++ v.typeName ++
        "' object has no attribute 'subnet_reference'"))
  let mut gpus : List String := []
  for g in <- iterate (attrOf res "gpus") do
    gpus := gpus ++ [<- gpuText r g]
  obj := assoc (assoc (assoc obj "disks" (.str (", ".intercalate disks))) "nics"
    (.str (", ".intercalate nics))) "gpus" (.str (", ".intercalate gpus))
  let gc := attrOf res "guest_customization"
  if gc.truthy then
    obj := assoc obj "guest_customization" (match <- customizationText r gc vmName with
      | some text => .str text
      | none => .none)
  fill ahvVmResources obj

/-- A machine written as source: its resources class, then the machine class. -/
def machineText (r : Runtime) (vm : Entity) (boot : Value) : Writer String := do
  let mut obj := assoc (userAttrs vm) "name" (.str vm.name)
  let displayed := displayName vm
  if displayed != vm.name then obj := assoc obj "gui_display_name" (.str displayed)
  let resName := vm.name ++ "Resources"
  obj := assoc obj "resources_cls_name" (.str resName)
  let res <- match attrOf vm "resources" with
    | .entity e => pure e
    | v => throw (v.noAttribute "__name__")
  obj := assoc obj "resources" (.str (<- resourcesText r res resName boot vm.name))
  fill ahvVm obj

/-- The readiness probe of a substrate written as source, with the attributes that may be
    edited at launch. -/
def probeText (probe : Entity) (editables : List Value) : Writer String := do
  let mut obj := assoc (userAttrs probe) "editables_list" (.list editables)
  let some cred := lookup obj "credential" | throw (.missingKey "'credential'")
  if cred.truthy then obj := assoc obj "credential" (.str (<- credentialRef cred))
  fill readinessProbe obj

end Blueprints.Source
