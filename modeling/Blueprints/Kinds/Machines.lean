import Blueprints.Kinds.Substrate

namespace Blueprints.Kinds

open Library Build

/-- The project of the file with its PC accounts, each with the subnets that the project allows
    on it. -/
def projectWithPcAccount : Build (ProjectRow × List (String × List String)) := do
  let project <- References.currentProject
  let accounts := project.accountsOf "nutanix_pc"
  if accounts.isEmpty then
    exitWith ("No nutanix account registered to project " ++ project.name)
  let allowed := project.whitelistedSubnets.foldl (fun acc (a, subnets) => upsert acc a subnets)
    (accounts.map (·, []))
  pure (project, allowed)

/-- The account that a part of a machine is resolved in: the account of the enclosing substrate,
    else the project's first PC account. -/
def partAccount (r : Runtime) (e : Entity) (parents : List Entity) :
    Build (ProjectRow × List (String × List String) × String × Option (Entity × List Entity)) := do
  let substrate := nearestOfKind .substrate (e :: parents)
  let account <- match substrate with
    | some (sub, above) => referencedAccount r sub above
    | none => pure ""
  let (project, allowed) <- projectWithPcAccount
  let account := if account.isEmpty then ((allowed.head?.map (·.1)).getD "") else account
  pure (project, allowed, account, substrate)

/-- Checks that a subnet is allowed where the card is: by the environment that holds it, or by
    the project when the card belongs to a substrate outside an environment. -/
def checkSubnetAllowed (r : Runtime) (chain : List Entity) (project : ProjectRow)
    (allowed : List (String × List String)) (account subnetName subnetUuid : String)
    (inSubstrate : Bool) : Build Unit := do
  match nearestOfKind .environment chain with
  | some (env, _) =>
    let providers := (env.lookup? "providers").getD (.list [])
    for p in <- iterate providers do
      let ptype <- attrOfValue r p "type"
      if ptype.isText "nutanix_pc" then
        let subnets <- attrOfValue r p "subnet_reference_list"
        let external <- attrOfValue r p "external_network_list"
        let mut uuids : List Value := []
        for s in (<- iterate subnets) ++ (<- iterate external) do
          -- a subnet of a provider is looked up among the subnets of its account
          let holder : List Entity := match p with
            | .entity pe => [pe]
            | _ => []
          let d <- match s with
            | .entity ref => do
              let doc <- r.compile holder ref
              pure (Value.dict (doc.map fun (k, v) => (.str k, v)))
            | v => getDict r v
          uuids := uuids ++ [<- subscript d (.str "uuid")]
        if !uuids.any (·.isText subnetUuid) then
          exitWith ("Subnet '" ++ subnetName ++ "' not whitelisted in environment '" ++
            env.name ++ "'")
  | none =>
    if inSubstrate then
      let subnets := ((allowed.find? (·.1 == account)).map (·.2)).getD []
      if !subnets.contains subnetUuid then
        exitWith ("Subnet " ++ subnetName ++ " is not whitelisted in project " ++
          project.name)

/-- A network card's compiled dictionary: its subnet and network function chain resolved. -/
def compileNic (r : Runtime) (parents : List Entity) (e : Entity) : Build Doc := do
  let mut d <- compileGeneric r e
  let (project, allowed, account, substrate) <- partAccount r e parents
  let subnetRef := d.field "subnet_reference"
  let subnetName := entryOr subnetRef "name" (.str "")
  let subnetName := if subnetName.truthy then textOf subnetName else ""
  if isMacro subnetName then
    d := d.put "subnet_reference" (textDict [("kind", .str "subnet"), ("uuid", .str subnetName)])
  else if !subnetName.isEmpty then
    let cluster := entryOr subnetRef "cluster" (.str "")
    let cache := (<- get).cache
    let clusterText := if cluster.truthy then textOf cluster else ""
    let some row := cache.subnet? subnetName clusterText account
      | throw (.exit ("AHV Subnet " ++ subnetName ++ " not found."))
    checkSubnetAllowed r (e :: parents) project allowed account subnetName row.uuid
      substrate.isSome
    d := d.put "subnet_reference" (textDict [("kind", .str "subnet"), ("name", .str subnetName),
      ("uuid", .str row.uuid)])
  let chainRef := d.field "network_function_chain_reference"
  let chainName := entryOr chainRef "name" (.str "")
  if chainName.truthy then
    let name := textOf chainName
    let some row := (<- get).cache.networkFunctionChain? name
      | exitWith ("AHV Network Function Chain " ++ name ++
          " not found. Please run: calm update cache")
    d := d.put "network_function_chain_reference" (textDict [("name", .str name),
      ("uuid", .str row.uuid), ("kind", .str "network_function_chain")])
  pure d

/-- A disk's compiled dictionary: an image of the image service resolved by name and the type of
    image its device takes; the bootable flag stays with the machine's resources. -/
def compileDisk (r : Runtime) (parents : List Entity) (e : Entity) : Build Doc := do
  let mut d <- compileGeneric r e
  d := d.remove "bootable"
  let (_, _, account, _) <- partAccount r e parents
  let imageRef := d.field "data_source_reference"
  if imageRef.truthy then
    let kind <- subscript imageRef (.str "kind")
    if kind.isText "image" then
      let imageName := textOf (entryOr imageRef "name" .none)
      let deviceType := entryOr (d.field "device_properties") "device_type" .none
      if isMacro imageName then
        d := d.put "data_source_reference" (textDict [("kind", .str "image"),
          ("uuid", .str imageName)])
      else
        let imageType <- match deviceType with
          | .str "DISK" => pure "DISK_IMAGE"
          | .str "CDROM" => pure "ISO_IMAGE"
          | v => throw (.missingKey v.repr)
        let some row := (<- get).cache.image? imageName imageType account
          | exitWith ("Ahv Disk Image " ++ imageName ++ " of type " ++ imageType ++
              " not found. Please run: calm update cache")
        d := d.put "data_source_reference" (textDict [("kind", .str "image"),
          ("name", .str imageName), ("uuid", .str row.uuid)])
  pure d

/-- The adapters that disks attach to, each numbering its disks from zero. -/
def adapters : List String := ["SCSI", "PCI", "IDE", "SATA"]

/-- The resources of a machine compiled: disks numbered per adapter, the boot device set from
    the one bootable disk, memory in MiB, and serial ports as a list. -/
def compileResources (r : Runtime) (e : Entity) : Build Doc := do
  let mut d <- compileGeneric r e
  let mut counters : List (String × Int) := adapters.map (·, 0)
  let mut bootConfig : List (Value × Value) := []
  let mut disks : List Value := []
  for disk in <- iterate ((d.field? "disk_list").getD (.list [])) do
    let props <- getDict r (<- attrOfValue r disk "device_properties")
    let address <- subscript props (.str "disk_address")
    let adapter <- subscript address (.str "adapter_type")
    let some (_, index) := counters.find? (fun (a, _) => adapter.isText a)
      | throw (.missingKey adapter.repr)
    counters := counters.map fun (a, n) => if adapter.isText a then (a, n + 1) else (a, n)
    let address' <- match address with
      | .dict entries => pure (Value.dict (dictPut entries "device_index" (.int index)))
      | v => throw v.noItemAssignment
    let props' <- match props with
      | .dict entries => pure (Value.dict (dictPut entries "disk_address" address'))
      | v => pure v
    let disk' <- match disk with
      | .entity de => do pure (Value.entity (<- de.set "device_properties" props'))
      | v => pure v
    disks := disks ++ [disk']
    let bootable <- attrOfValue r disk "bootable"
    if bootable.truthy then
      if bootConfig.isEmpty then
        bootConfig := [(.str "boot_device", textDict [("disk_address", address')])]
      else throw (.badValue "More than one bootable disks found")
  if d.any (·.1 == "disk_list") then d := d.put "disk_list" (.list disks)
  d := d.put "memory_size_mib" (<- arith .mul (d.field "memory_size_mib") (.int 1024))
  let bootType := d.field "boot_type"
  d := d.remove "boot_type"
  if bootType.isText "UEFI" then bootConfig := dictPut bootConfig "boot_type" (.str "UEFI")
  d := d.put "boot_config" (.dict bootConfig)
  if bootConfig.isEmpty then d := d.remove "boot_config"
  let serial := d.field "serial_port_list"
  let mut ports : List Value := []
  if serial.truthy then
    let entries <- match serial with
      | .dict entries => pure entries
      | .record _ fields => pure (fields.map fun (k, v) => (Value.str k, v))
      | v => throw (v.noAttribute "items")
    for (index, connected) in entries do
      match index with
      | .int _ | .bool _ => pure ()
      | _ => throw (.wrongType ("index " ++ index.toText ++ " is not of type integer"))
      match connected with
      | .bool _ => pure ()
      | _ => throw (.wrongType ("connection status " ++ connected.toText ++
          " is not of type bool"))
      ports := ports ++ [textDict [("index", index), ("is_connected", connected)]]
  d := d.put "serial_port_list" (.list ports)
  pure d

end Blueprints.Kinds
