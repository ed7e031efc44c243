import Blueprints.Api.Handle

namespace Blueprints.Api

open Http Library Library.Entities Text

/-- Lists a collection of the API under a filter, and answers the page or fails with the error. -/
def listUnder (base : String) (filter : String) : Build Value := do
  (<- (Resource.named "" base).list (dictOf [("filter", .str filter)])).jsonOrRaise

def entitiesOf (page : Value) : Build (List Value) := do iterate (<- at! page "entities")

/-- A value at a path of each entity of a page. -/
def eachAt (page : Value) (keys : List String) : Build (List Value) := do
  (<- entitiesOf page).mapM (path! · keys)

/-- A map from one path to another over the entities of a page. -/
def mapAt (page : Value) (keyPath valuePath : List String) : Build Value := do
  let pairs <- (<- entitiesOf page).mapM fun e => do pure (<- path! e keyPath, <- path! e valuePath)
  pure (keepLast pairs)

/-- An operation that the base object declares and that fails as not implemented. -/
def unimplemented (owner name : String) : Operation :=
  { name, owner, params := [],
    run := fun _ => throw (.notImplemented (name ++ " call not implemented")) }

/-- The operation of a provider's base object that gives the server version from which its
    object is used. -/
def versionOperation (owner version : String) : Operation :=
  { name := "get_version", owner, params := [], run := fun _ => pure (.value (.str version)) }

/-- An object of a provider: its class name and operations. -/
structure ProviderApi where
  className : String
  operations : List Operation
  open? : List String := []

def fmt (v : Value) : String := v.toText

/-- The text of a keyword argument, with a default. -/
def kwOr (b : Bound) (key : String) (dflt : Value) : Value := (b.extra? key).getD dflt

/-- The categories of a groups answer: for each group its key and each of its values. -/
def categoriesOf (answer : Value) : Build Value := do
  let mut out : List Value := []
  for group in <- iterate (<- at! answer "group_results") do
    let values <- path! group ["group_summaries", "sum:name", "values"]
    let key <- subscript (<- at! (<- subscript values (.int 0)) "values") (.int 0)
    for entity in <- iterate (<- at! group "entity_results") do
      let data <- subscript (<- at! entity "data") (.int 0)
      let value <- subscript (<- at! (<- subscript (<- at! data "values") (.int 0)) "values") (.int 0)
      out := out ++ [dictOf [("key", key), ("value", value)]]
  pure (.list out)

/-- The query that lists categories of Nutanix. -/
def categoriesQuery : Value :=
  dictOf [("entity_type", .str "category"),
    ("filter_criteria", .str ("name!=CalmApplication;name!=CalmDeployment;name!=CalmService;" ++
      "name!=CalmPackage;name!=CalmProject;name!=CalmUser;name!=CalmVmUniqueIdentifier;" ++
      "name!=CalmClusterUuid")),
    ("grouping_attribute", .str "abac_category_key"),
    ("group_sort_attribute", .str "name"),
    ("group_count", .int 60),
    ("group_attributes", .list [dictOf [("attribute", .str "name"),
      ("ancestor_entity_type", .str "abac_category_key")]]),
    ("group_member_count", .int 1000),
    ("group_member_offset", .int 0),
    ("group_member_sort_attribute", .str "value"),
    ("group_member_attributes", .list [dictOf [("attribute", .str "value")]]),
    ("query_name", .str "prism:CategoriesQueryModel")]

/-- The filter of the images and subnets of Nutanix, from the keyword arguments. -/
def nutanixFilter (b : Bound) (withAccount : Bool) : Build Value := do
  let mut query := kwOr b "filter_query" (.str "")
  let account := kwOr b "account_uuid" .none
  if withAccount && account.truthy then
    query <- arith .add query (.str (";account_uuid==" ++ fmt account))
  match query with
  | .str s => pure (.str (if s.startsWith ";" then (s.drop 1).toString else s))
  | v => throw (v.noAttribute "startswith")

/-- The object of Nutanix: `AhvNew` from version 2.9.0, under `nutanix/v1`, else `Ahv`. -/
def nutanixApi (version : String) : ProviderApi :=
  let recent := !versionLt version "2.9.0"
  let o := if recent then "AhvNew" else "Ahv"
  let under (name : String) := if recent then "nutanix/v1/" ++ name else name
  let page (b : Bound) : Build Value := do
    pure (dictOf [("length", kwOr b "length" (.int 250)), ("offset", kwOr b "offset" (.int 0)),
      ("filter", <- nutanixFilter b recent)])
  { className := o, open? := ["images", "subnets", "categories"],
    operations := [
      compute "images" o [] fun b => do
        let images := Resource.named "" (under "images")
        (<- images.list (<- page b) true).jsonOrRaise,
      compute "subnets" o [] fun b => do
        let subnets := Resource.named "" (under "subnets")
        match <- subnets.listAll (.int 250) (<- page b) true with
        | .tuple [found, err] =>
          if err.truthy then raiseError err
          pure (dictOf [("entities", found)])
        | v => pure (dictOf [("entities", v)]),
      compute "categories" o [] fun b => do
        let outcome <- if !recent then (Resource.named "" "groups").create categoriesQuery
          else if (kwOr b "host_pc" (.bool false)).truthy then
            (Resource.named "" "groups").create categoriesQuery
          else do
            let account := kwOr b "account_uuid" .none
            let query <- if account.truthy then do
                let criteria <- at! categoriesQuery "filter_criteria"
                setKey categoriesQuery "filter_criteria"
                  (<- arith .add criteria (.str (";account_uuid==" ++ fmt account)))
              else pure categoriesQuery
            (Resource.named "" "nutanix/v1/groups").list query
        categoriesOf (<- outcome.jsonOrRaise),
      versionOperation "AhvBase" (if recent then "2.9.0" else "0") ] }

/-- The object of AWS: `AWSV1` from version 3.2.0, with newer paths and dashed filters, else
    `AWSV0`. -/
def awsApi (version : String) : ProviderApi :=
  let recent := !versionLt version "3.2.0"
  let o := if recent then "AWSV1" else "AWSV0"
  let place (name : String) := if recent then "aws/v1/" ++ name else "aws/" ++ name
  let collection (name : String) := Resource.named "" (place name) recent
  let region := if recent then ";region-name==" else ";region=="
  let vpc := if recent then ";vpc-id==" else ";vpc_id=="
  let zone := if recent then ";availability-zone==" else ";availability_zone=="
  let regionFilter (b : Bound) := "account_uuid==" ++ fmt (b.get "account_id") ++ region ++
    fmt (b.get "region_name")
  let listOf (name : String) (filter : String) : Build Value := do
    (<- (collection name).list (dictOf [("filter", .str filter)])).jsonOrRaise
  let names (page : Value) : Build Value := do
    pure (.list (<- eachAt page ["metadata", "name"]))
  let twoArgs := [req "account_id", req "region_name"]
  { className := o,
    operations := [
      compute "regions" o [req "account_id"] fun b => do
        let accounts := Resource.named "" "accounts" recent
        let answer <- (<- accounts.read (b.get "account_id")).jsonOrRaise
        let regions <- path! answer ["spec", "resources", "data", "regions"]
        pure (.list (<- (<- iterate regions).mapM (at! · "name"))),
      compute "machine_types" o [] fun _ => do
        names (<- (<- (collection "machine_types").list emptyDict).jsonOrRaise),
      compute "volume_types" o [] fun _ => do
        names (<- (<- (collection "volume_types").list emptyDict).jsonOrRaise),
      compute "availability_zones" o twoArgs fun b => do
        names (<- listOf "availability_zones" (regionFilter b)),
      compute "mixed_images" o twoArgs fun b => do
        let page <- listOf "mixed_images" (regionFilter b)
        let pairs <- (<- entitiesOf page).mapM fun e => do
          let res <- path! e ["status", "resources"]
          pure (<- at! res "name", Value.tuple [<- at! res "id", <- at! res "root_device_name"])
        pure (keepLast pairs),
      compute "roles" o twoArgs fun b => do names (<- listOf "roles" (regionFilter b)),
      compute "key_pairs" o twoArgs fun b => do names (<- listOf "key_pairs" (regionFilter b)),
      compute "VPCs" o twoArgs fun b => do
        mapAt (<- listOf "vpcs" (regionFilter b)) ["status", "resources", "cidr_block"]
          ["status", "resources", "id"],
      compute "security_groups" o [req "account_id", req "region_name", req "vpc_id",
          opt "inc_classic_sg" (.bool false)] fun b => do
        let classic := if (b.get "inc_classic_sg").truthy then "true" else "false"
        let filter := regionFilter b ++ vpc ++ fmt (b.get "vpc_id") ++ ";include_classic_sg==" ++
          classic
        mapAt (<- listOf "security_groups" filter) ["status", "name"] ["status", "resources", "id"],
      compute "subnets" o [req "account_id", req "region_name", req "vpc_id",
          req "availability_zone"] fun b => do
        let filter := regionFilter b ++ vpc ++ fmt (b.get "vpc_id") ++ zone ++
          fmt (b.get "availability_zone")
        pure (.list (<- eachAt (<- listOf "subnets" filter) ["status", "resources", "id"])),
      unimplemented "AWSBase" "availibility_zones",
      versionOperation "AWSBase" (if recent then "3.2.0" else "0") ] }

def azureApi : ProviderApi :=
  let o := "Azure"
  let under (name : String) := "azure_rm/v1/" ++ name
  let acct (b : Bound) := "account_uuid==" ++ fmt (b.get "account_id")
  let names (page : Value) : Build Value := do pure (.list (<- eachAt page ["status", "name"]))
  let res (key : String) := ["status", "resources", key]
  { className := o,
    operations := [
      compute "resource_groups" o [req "account_id"] fun b => do
        names (<- listUnder (under "resource_groups") (acct b ++ ";")),
      compute "availability_sets" o [req "account_id", req "resource_group"] fun b => do
        mapAt (<- listUnder (under "availability_sets") (acct b ++ ";resource_group==" ++
          fmt (b.get "resource_group"))) (res "name") (res "id"),
      compute "locations" o [req "account_id"] fun b => do
        mapAt (<- listUnder (under "locations") (acct b ++ ";")) (res "displayName") (res "name"),
      compute "availability_zones" o [req "account_id", req "resource_group", req "location"]
          fun b => do
        let page <- listUnder (under "availability_zones") (acct b ++ ";resource_group==" ++
          fmt (b.get "resource_group") ++ ";location==" ++ fmt (b.get "location"))
        let mut pairs : List (Value × Value) := []
        for e in <- entitiesOf page do
          let resources <- path! e ["status", "resources"]
          if <- compareValues .mem (.str "zones") resources then
            for zone in <- iterate (<- at! resources "zones") do
              pairs := pairs ++ [(<- at! zone "name", <- at! zone "value")]
        pure (keepLast pairs),
      compute "hardware_profiles" o [req "account_id", req "location"] fun b => do
        mapAt (<- listUnder (under "vm_sizes") (acct b ++ ";location==" ++ fmt (b.get "location")))
          (res "name") (res "maxDataDiskCount"),
      compute "custom_images" o [req "account_id", req "location"] fun b => do
        mapAt (<- listUnder (under "subscription_images") (acct b ++ ";location==" ++
          fmt (b.get "location"))) (res "name") (res "id"),
      compute "image_publishers" o [req "account_id", req "location"] fun b => do
        names (<- listUnder (under "image_publishers") (acct b ++ ";location==" ++
          fmt (b.get "location"))),
      compute "image_offers" o [req "account_id", req "location", req "publisher"] fun b => do
        names (<- listUnder (under "image_offers") (acct b ++ ";location==" ++
          fmt (b.get "location") ++ ";publisher==" ++ fmt (b.get "publisher"))),
      compute "image_skus" o [req "account_id", req "location", req "publisher", req "offer"]
          fun b => do
        names (<- listUnder (under "image_skus") (acct b ++ ";location==" ++
          fmt (b.get "location") ++ ";publisher==" ++ fmt (b.get "publisher") ++ ";offer==" ++
          fmt (b.get "offer"))),
      compute "image_versions" o [req "account_id", req "location", req "publisher", req "offer",
          req "sku"] fun b => do
        names (<- listUnder (under "image_versions") (acct b ++ ";location==" ++
          fmt (b.get "location") ++ ";publisher==" ++ fmt (b.get "publisher") ++ ";offer==" ++
          fmt (b.get "offer") ++ ";sku==" ++ fmt (b.get "sku"))),
      compute "security_groups" o [req "account_id", req "resource_group", req "location"]
          fun b => do
        names (<- listUnder (under "security_groups") (acct b ++ ";location==" ++
          fmt (b.get "location") ++ ";resource_group==" ++ fmt (b.get "resource_group"))),
      compute "virtual_networks" o [req "account_id", req "resource_group", req "location"]
          fun b => do
        names (<- listUnder (under "virtual_networks") (acct b ++ ";location==" ++
          fmt (b.get "location") ++ ";resource_group==" ++ fmt (b.get "resource_group"))),
      compute "subnets" o [req "account_id", req "resource_group", req "virtual_network"]
          fun b => do
        names (<- listUnder (under "subnets") (acct b ++ ";virtual_network==" ++
          fmt (b.get "virtual_network") ++ ";resource_group==" ++ fmt (b.get "resource_group"))) ] }

/-- The public images configured on a GCP account, by the last part of their link. -/
def gcpPublicImages (account : Value) : Build Value := do
  let answer <- (<- (Resource.named "" "accounts").read account).jsonOrRaise
  let images <- path! answer ["status", "resources", "data", "public_images"]
  let pairs <- (<- iterate images).mapM fun e => do
    let link <- at! e "selfLink"
    let text <- match link with
      | .str s => pure s
      | v => throw (v.noAttribute "rindex")
    let parts := text.splitOn "/"
    if parts.length < 2 then throw (.badValue "substring not found")
    pure (Value.str (parts.getLastD ""), link)
  pure (keepLast pairs)

def gcpApi : ProviderApi :=
  let o := "GCP"
  let under (name : String) := "gcp/v1/" ++ name
  let zoneFilter (b : Bound) := "account_uuid==" ++ fmt (b.get "account_id") ++ ";zone==" ++
    fmt (b.get "zone") ++ ";unused==true;private_only==true"
  let links (name : String) (b : Bound) : Build Value := do
    mapAt (<- listUnder (under name) (zoneFilter b)) ["status", "resources", "name"]
      ["status", "resources", "selfLink"]
  let merged (maps : List Value) : Value :=
    keepLast (maps.flatMap fun m => match m with
      | .dict es => es
      | _ => [])
  let zoneArgs := [req "account_id", req "zone"]
  { className := o,
    operations := [
      compute "zones" o [req "account_id", opt "region" (.str "undefined")] fun b => do
        let page <- listUnder (under "zones") ("account_uuid==" ++ fmt (b.get "account_id") ++
          ";region==" ++ fmt (b.get "region"))
        pure (.list (<- eachAt page ["status", "name"])),
      compute "machine_types" o zoneArgs fun b => do
        mapAt (<- listUnder (under "machine_types") ("account_uuid==" ++ fmt (b.get "account_id") ++
          ";zone==" ++ fmt (b.get "zone"))) ["status", "resources", "name"]
          ["status", "resources", "selfLink"],
      compute "persistent_disks" o zoneArgs (links "persistent_disks"),
      compute "snapshots" o zoneArgs (links "snapshots"),
      compute "configured_public_images" o [req "account_id"] fun b =>
        gcpPublicImages (b.get "account_id"),
      compute "images" o zoneArgs (links "images"),
      compute "disk_images" o zoneArgs fun b => do
        let configured <- gcpPublicImages (b.get "account_id")
        let snapshots <- links "snapshots" b
        let images <- links "images" b
        pure (merged [configured, snapshots, images]),
      compute "networks" o zoneArgs (links "networks"),
      compute "subnetworks" o zoneArgs (links "subnetworks"),
      compute "network_tags" o [req "account_id"] fun b => do
        let page <- listUnder (under "firewalls") ("account_uuid==" ++ fmt (b.get "account_id") ++
          ";")
        let mut tags : List Value := []
        for e in <- entitiesOf page do
          let target <- getOr (<- path! e ["status", "resources"]) "targetTags" .none
          if target.truthy then tags := tags ++ (<- iterate target)
        pure (.list tags) ] }

/-- The controller kinds of vCenter device types. -/
def controllerKinds : List (String × String) :=
  [("vim.vm.device.VirtualIDEController", "IDE"),
    ("vim.vm.device.VirtualLsiLogicSASController", "SCSI"),
    ("vim.vm.device.VirtualSCSIController", "SCSI"),
    ("vim.vm.device.VirtualSATAController", "SATA"),
    ("vim.vm.device.ParaVirtualSCSIController", "SCSI"),
    ("vim.vm.device.VirtualAHCIController", "SATA"),
    ("vim.vm.device.VirtualBusLogicController", "SCSI"),
    ("vim.vm.device.VirtualLsiLogicController", "SCSI")]

/-- The controller class names of vCenter device types. -/
def controllerNames : List (String × String) :=
  controllerKinds.map fun (t, _) => (t, (t.drop "vim.vm.device.".length).toString)

/-- The controller names of the SCSI and SATA controllers that templates may have. -/
def controllerOptions : List (String × String) :=
  [("VirtualLsiLogicController", "Lsi Logic Parallel"),
    ("VirtualLsiLogicSASController", "Lsi Logic SAS"),
    ("ParaVirtualSCSIController", "VMware Paravirtual"),
    ("VirtualBusLogicController", "Bus Logic Parallel")]

/-- The disk modes of vCenter, by their API name. -/
def diskModes : List (String × String) :=
  [("independent_persistent", "Independent - Persistent"), ("persistent", "Dependent"),
    ("independent_nonpersistent", "Independent - Nonpersistent")]

/-- The adapter names of vCenter network device types. -/
def adapterNames : List (String × String) :=
  [("vim.vm.device.VirtualE1000", "e1000"), ("vim.vm.device.VirtualE1000e", "e1000e"),
    ("vim.vm.device.VirtualPCNet32", "pcnet32"), ("vim.vm.device.VirtualVmxnet", "vmxnet"),
    ("vim.vm.device.VirtualVmxnet2", "vmxnet2"), ("vim.vm.device.VirtualVmxnet3", "vmxnet3")]

/-- Looks a text value up in a table, failing as a missing key does. -/
def lookupText (table : List (String × String)) (key : Value) : Build String :=
  match key with
  | .str k => match table.lookup k with
    | some v => pure v
    | none => throw (.missingKey key.repr)
  | k => throw (.missingKey k.repr)

/-- Sets an entry of a dictionary value in place, adding it at the end when new. -/
def putEntry (entries : List (Value × Value)) (k v : Value) : List (Value × Value) :=
  if entries.any (·.1.equal k) then
    entries.map fun (k', w) => if k'.equal k then (k', v) else (k', w)
  else entries ++ [(k, v)]

/-- The entry of a dictionary value under a key. -/
def entryOf (entries : List (Value × Value)) (k : Value) : Option Value :=
  (entries.find? (·.1.equal k)).map (·.2)

/-- The controllers, disks and network adapters of a vCenter template, as a machine
    specification starts from them. -/
def templateDefaults (account template : Value) : Build Value := do
  let page <- listUnder ("vmware/v6/accounts/" ++ fmt account ++ "/templates")
    ("template_uuids==[\"" ++ fmt template ++ "\"];")
  let mut controllers : List Value := []
  let mut disks : List Value := []
  let mut networks : List Value := []
  for e in <- entitiesOf page do
    let config <- path! e ["status", "resources", "config"]
    if (<- at! config "instanceUuid").equal template then
      let device <- path! config ["hardware", "device"]
      let orEmpty (v : Value) : Build (List Value) := if v.truthy then iterate v else pure []
      controllers <- orEmpty (<- at! device "controller")
      disks <- orEmpty (<- at! device "disk")
      networks <- orEmpty (<- at! device "network")
      break
  let kinds := ["SCSI", "SATA", "IDE"].map Value.str
  let mut tempControllers : List (Value × Value) := []
  let mut freeSlots : List (Value × Value) := []
  let mut counts : List (Value × Value) := kinds.map (·, .int 0)
  let mut keyTypes : List (Value × Value) :=
    [(.int 1000, .tuple [.str "SCSI", .none]), (.int 15000, .tuple [.str "SATA", .none]),
      (.int 200, .tuple [.str "IDE", .none])]
  let mut labelKeys : List (Value × Value) := kinds.map (·, .dict [])
  for c in controllers do
    let label <- at! c "label"
    freeSlots := putEntry freeSlots label (<- at! c "freeDeviceSlots")
    let type <- at! c "type"
    let kind := match type with
      | .str t => (controllerKinds.lookup t).getD "IDE"
      | _ => "IDE"
    let name <- lookupText controllerNames type
    let mut entry : List (Value × Value) := []
    if kind == "SCSI" then
      entry := entry ++ [(.str "controller_type", .str (<- lookupText controllerOptions (.str name)))]
    else if kind == "SATA" then
      entry := entry ++ [(.str "controller_type",
        .str (<- lookupText [("VirtualAHCIController", "Virtual SATA Controller")] (.str name)))]
    let key <- at! c "key"
    entry := entry ++ [(.str "key", key)]
    let labels := match entryOf labelKeys (.str kind) with
      | some (.dict es) => es
      | _ => []
    labelKeys := putEntry labelKeys (.str kind) (.dict (putEntry labels label key))
    keyTypes := putEntry keyTypes key (.tuple [.str kind, label])
    let count := match entryOf counts (.str kind) with
      | some (.int n) => n
      | _ => 0
    counts := putEntry counts (.str kind) (.int (count + 1))
    if kind == "SCSI" then entry := entry ++ [(.str "bus_sharing", <- at! c "sharedBus")]
    let existing := match entryOf tempControllers (.str kind) with
      | some (.list xs) => xs
      | _ => []
    tempControllers := putEntry tempControllers (.str kind) (.list (existing ++ [.dict entry]))
  let mut tempDisks : List Value := []
  for d in disks do
    let diskType <- lookupText [("vim.vm.device.VirtualDisk", "disk"),
      ("vim.vm.device.VirtualCdrom", "cdrom")] (<- at! d "type")
    let controllerKey <- at! d "controllerKey"
    let mut entry : List (Value × Value) := [(.str "disk_type", .str diskType),
      (.str "key", <- at! d "key"), (.str "controller_key", controllerKey)]
    let adapter <- match entryOf keyTypes controllerKey with
      | some t => if t.truthy then subscript t (.int 0) else pure (.str "IDE")
      | none => pure (.str "IDE")
    entry := entry ++ [(.str "adapter_type", adapter)]
    if diskType == "disk" then
      let size <- arith .floorDiv (<- at! d "capacityInKB") (.int 1024)
      let backing <- at! d "backing"
      let mode <- lookupText diskModes (<- at! backing "diskMode")
      let store <- at! backing "datastore"
      entry := entry ++ [(.str "size", size), (.str "mode", .str mode),
        (.str "location", .tuple [<- at! store "url", <- at! store "name"]),
        (.str "device_slot", <- at! d "unitNumber")]
    tempDisks := tempDisks ++ [.dict entry]
  let mut tempNics : List Value := []
  for n in networks do
    let key <- at! n "key"
    let netName <- path! n ["backing", "network", "name"]
    let nicType := match <- at! n "type" with
      | .str t => (adapterNames.lookup t).getD ""
      | _ => ""
    tempNics := tempNics ++ [dictOf [("key", key), ("net_name", netName),
      ("nic_type", .str nicType)]]
  pure (dictOf [("tempControllers", .dict tempControllers), ("tempDisks", .list tempDisks),
    ("tempNics", .list tempNics), ("free_device_slots", .dict freeSlots),
    ("controller_count", .dict counts), ("controller_key_type_map", .dict keyTypes),
    ("controller_label_key_map", .dict labelKeys)])

/-- The filter of a vCenter listing by host or cluster: the cluster wins, and with neither
    the listing has no filter. -/
def placeFilter (b : Bound) : Value :=
  let acct := "account_uuid==" ++ fmt (b.get "account_id")
  if (b.get "cluster_name").truthy then
    dictOf [("filter", .str (acct ++ ";cluster_name==" ++ fmt (b.get "cluster_name")))]
  else if (b.get "host_id").truthy then
    dictOf [("filter", .str (acct ++ ";host_id==" ++ fmt (b.get "host_id")))]
  else .str ""

def vcenterApi : ProviderApi :=
  let o := "VCenter"
  let under (name : String) := "vmware/v6/" ++ name
  let acct (b : Bound) := "account_uuid==" ++ fmt (b.get "account_id") ++ ";"
  let res (key : String) := ["status", "resources", key]
  let listPlace (name : String) (b : Bound) : Build Value := do
    (<- (Resource.named "" (under name)).list (placeFilter b)).jsonOrRaise
  { className := o,
    operations := [
      compute "hosts" o [req "account_id"] fun b => do
        mapAt (<- listUnder (under "host") (acct b)) (res "name")
          ["status", "resources", "summary", "hardware", "uuid"],
      compute "datastores" o [req "account_id", opt "cluster_name" .none, opt "host_id" .none]
          fun b => do
        mapAt (<- listPlace "datastore" b) (res "name") ["status", "resources", "summary", "url"],
      compute "clusters" o [req "account_id"] fun b => do
        pure (.list (<- eachAt (<- listUnder (under "cluster") (acct b)) (res "name"))),
      compute "storage_pods" o [req "account_id"] fun b => do
        pure (.list (<- eachAt (<- listUnder (under "storage_pod") (acct b)) (res "name"))),
      compute "templates" o [req "account_id"] fun b => do
        mapAt (<- listUnder (under "template") (acct b)) (res "name")
          ["status", "resources", "config", "instanceUuid"],
      compute "customizations" o [req "account_id", req "os"] fun b => do
        let page <- listUnder (under "customization") (acct b)
        let mut names : List Value := []
        for e in <- entitiesOf page do
          let resources <- path! e ["status", "resources"]
          if (<- at! resources "type").equal (b.get "os") then
            names := names ++ [<- at! resources "name"]
        pure (.list names),
      compute "timezones" o [req "os"] fun b => do
        mapAt (<- listUnder (under "timezone") ("guest_os==" ++ fmt (b.get "os") ++ ";"))
          (res "name") (res "index"),
      compute "networks" o [req "account_id", opt "host_id" .none, opt "cluster_name" .none]
          fun b => do
        mapAt (<- listPlace "network" b) (res "name") (res "id"),
      compute "tags" o [req "account_id"] fun b => do
        let page <- listUnder (under "vm_categories") ("account_uuid==" ++ fmt (b.get "account_id"))
        let mut tagMap : List (Value × Value) := []
        let mut cardinality : List (Value × Value) := []
        for e in <- iterate (<- getOr page "entities" .none) do
          let resources <- path! e ["status", "resources"]
          let name <- at! resources "name"
          cardinality := putEntry cardinality name (<- at! resources "cardinality")
          for tag in <- iterate (<- at! resources "tags") do
            let tagName <- at! tag "name"
            let key <- arith .add (<- arith .add name (.str ":")) tagName
            tagMap := putEntry tagMap (.str key.toText) (dictOf [("id", <- at! tag "id"),
              ("name", name), ("tag_name", tagName)])
        pure (dictOf [("tag_list", .dict tagMap), ("cardinality_list", .dict cardinality)]),
      compute "file_paths" o [req "account_id", opt "datastore_url" .none,
          opt "file_extension" (.str "iso"), opt "host_id" .none, opt "cluster_name" .none]
          fun b => do
        let base := "account_uuid==" ++ fmt (b.get "account_id") ++ ";file_extension==" ++
          fmt (b.get "file_extension")
        let filter := if (b.get "datastore_url").truthy then
            base ++ ";datastore_url==" ++ fmt (b.get "datastore_url")
          else if (b.get "host_id").truthy then base ++ ";host_id==" ++ fmt (b.get "host_id")
          else base ++ ";cluster_name==" ++ fmt (b.get "cluster_name")
        pure (.list (<- eachAt (<- listUnder (under "file_paths") filter) ["status", "resources"])),
      compute "template_defaults" o [req "account_id", req "template_id"] fun b =>
        templateDefaults (b.get "account_id") (b.get "template_id") ] }

/-- The provider types that are registered. -/
def providerTypes : List String :=
  ["AHV_VM", "AWS_VM", "AZURE_VM", "EXISTING_VM", "GCP_VM", "K8S_POD", "VMWARE_VM"]

/-- The object of a provider type for a server version. -/
def providerApi (providerType version : String) : Build ProviderApi := do
  if !providerTypes.contains providerType then throw (.failure "provider not registered")
  match providerType with
  | "AHV_VM" => pure (nutanixApi version)
  | "AWS_VM" => pure (awsApi version)
  | "AZURE_VM" => pure azureApi
  | "GCP_VM" => pure gcpApi
  | "VMWARE_VM" => pure vcenterApi
  | _ => throw (.notImplemented "Api object not implemented")

/-- Calls an operation of a provider's object with positional and keyword arguments. -/
def ProviderApi.invoke (api : ProviderApi) (method : String) (args : List Value)
    (kwargs : List (String × Value)) : Build Answer := do
  let some op := api.operations.find? (·.name == method)
    | throw (.missingAttribute ("'" ++ api.className ++ "' object has no attribute '" ++
        method ++ "'"))
  let isOpen := api.open?.contains method || (op.owner.endsWith "Base" && op.name != "get_version")
  let sig : Signature := { qualName := op.owner ++ "." ++ op.name, params := op.params,
                           implicit := 1, varArgs := isOpen, varKw := isOpen }
  match sig.bind args kwargs with
  | .ok bound => op.run bound
  | .error f => throw f

/-- Calls an operation of the object of a provider type for the server's version. -/
def invokeProvider (providerType method : String) (args : List Value)
    (kwargs : List (String × Value)) : Build Answer := do
  (<- providerApi providerType (<- get).version).invoke method args kwargs

end Blueprints.Api
