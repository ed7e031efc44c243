import Blueprints.Cli.Apps
import Blueprints.Api.Providers

namespace Blueprints.Cli

open Library Http Api Build Text Json

/-- The kinds of disk device by the names the user picks from, with the names the server
    keeps. -/
def deviceTypes : List (String × String) := [("CD_ROM", "CDROM"), ("DISK", "DISK")]

/-- The buses of a kind of disk device; another kind has none, as a missing key. -/
def deviceBuses (deviceType : Value) : Build (List String) :=
  match deviceType with
  | .str "CDROM" => pure ["SATA", "IDE"]
  | .str "DISK" => pure ["SCSI", "PCI"]
  | v => throw (.missingKey v.repr)

/-- The operations that fill a kind of disk. -/
def diskOperations (deviceType : Value) : Build (List String) :=
  match deviceType with
  | .str "DISK" => pure ["CLONE_FROM_IMAGE", "ALLOCATE_STORAGE_CONTAINER"]
  | .str "CDROM" => pure ["CLONE_FROM_IMAGE", "EMPTY_CDROM"]
  | v => throw (.missingKey v.repr)

/-- The type of the images that a kind of disk takes. -/
def diskImageType (deviceType : Value) : Build String :=
  match deviceType with
  | .str "DISK" => pure "DISK_IMAGE"
  | .str "CDROM" => pure "ISO_IMAGE"
  | v => throw (.missingKey v.repr)

/-- The ways a Windows machine may be installed. -/
def installTypes : List String := ["FRESH", "PREPARED"]

/-- The characters of a text from `start` to before `stop`, a negative position counting from
    the end, as slices of texts take them. -/
def textSlice (s : String) (start stop : Int) : String :=
  let n : Int := s.length
  let place (i : Int) : Nat := (if i < 0 then max (n + i) 0 else min i n).toNat
  let a := place start
  String.ofList ((s.toList.drop a).take (place stop - a))

/-- How many questions a loop of questions may ask at most: each one reads a line of the input
    or stops the program, so the characters left bound them. -/
def questionBudget : Build Nat := do pure ((<- get).input.length + 1)

/-- Asks for a value whose empty answer keeps a default, the answer taking the type of the
    default; with no default the answer is a text, and an empty answer asks again. -/
def askLike (text : String) (default : Value) (hide : Bool := false) : Build Value :=
  askValue text default hide fun given =>
    match default with
    | .none => pure (.ok (.str given.toText))
    | _ => convertLikeSample default given

/-- Asks for one of the choices, with a default that an empty answer takes. -/
def askChoice (text : String) (choices : List Value) (default : Value) : Build Value :=
  askValue text default false fun given => pure (convertChoice choices given)

/-- Asks a yes-or-no question whose empty answer is the default. -/
def askYesNo (text default : String) : Build Bool := do
  let answer <- askChoice (text ++ " [" ++ default ++ "]") [.str "y", .str "n"] (.str default)
  pure (answer.isText "y")

/-- Asks for a whole number from one to `top`, one by default. -/
def askIndex (text : String) (top : Nat) : Build Int :=
  askValue (text ++ " [1]") (.int 1) false fun given => do
    let n <- match given with
      | .int n => pure (some n)
      | v => pure (readInt? v.toText)
    match n with
    | none => pure (.error (quoted given.toText ++ " is not a valid integer."))
    | some n =>
      if 1 ≤ n && n ≤ top then pure (.ok n)
      else pure (.error (toString n ++ " is not in the range 1<=x<=" ++ toString top ++ "."))

def hasKey (d : Value) (key : String) : Build Bool := compareValues .mem (.str key) d

/-- A dictionary with the entries of another set in it, one after the other. -/
def updateWith (d : Value) (entries : List (String × Value)) : Build Value :=
  entries.foldlM (fun acc (k, v) => setKey acc k v) d

/-- The value that a key maps to in an association list, compared as values are. -/
def lookupValue (entries : List (Value × Value)) (key : Value) : Option Value :=
  (entries.find? (·.1.equal key)).map (·.2)

/-- An association list with a key set: a key already there keeps its place. -/
def putValue (entries : List (Value × Value)) (key v : Value) : List (Value × Value) :=
  if entries.any (·.1.equal key) then
    entries.map fun (k, w) => if k.equal key then (k, v) else (k, w)
  else entries ++ [(key, v)]

/-- A size in MiB as whole GiB, cut toward zero as dividing and truncating does. -/
def wholeGib (size : Value) : Build Value :=
  match size with
  | .int n => pure (.int (n.tdiv 1024))
  | .bool b => pure (.int (if b then 0 else 0))
  | .float d =>
    if d.exponent ≥ 0 then pure (.int ((d.mantissa * Int.pow 10 d.exponent.toNat).tdiv 1024))
    else pure (.int (d.mantissa.tdiv (Int.pow 10 (-d.exponent).toNat * 1024)))
  | v => throw (.wrongType ("unsupported operand type(s) for /: '" ++ v.typeName ++
      "' and 'int'"))

/-- The text a value must be for a text method; another value has no such method. -/
def textFor (v : Value) (method : String) : Build String :=
  match v with
  | .str s => pure s
  | v => throw (v.noAttribute method)

/-- Calls an operation of a provider's object with keyword arguments and gives its value. -/
def askServer (api : ProviderApi) (method : String) (kwargs : List (String × Value)) :
    Build Value := do
  match <- api.invoke method [] kwargs with
  | .value v => pure v
  | .outcome o => o.jsonOrRaise

/-- The values of a readiness probe, each asked for. -/
def askProbe (probe : Value) : Build Value := do
  let mut out := probe
  for (k, v) in <- entriesOf probe "items" do
    let answer <- askLike ("Value for " ++ k.toText ++ " [" ++ v.toText ++ "]") v
    out <- match out with
      | .dict es => pure (.dict (putValue es k answer))
      | other => pure other
  pure out

/-- The categories of a machine as a JSON text, after the user has deleted families from them
    and added values of the cloud's categories. -/
def askCategories (given : Value) (api : ProviderApi) (hostPc account : Value) :
    Build Value := do
  let mut chosen : List (Value × Value) <- if given.truthy then
      match given with
      | .str text => match parse text with
        | .ok (.obj fields) => pure (fields.map fun (k, v) => (Value.str k, .ofJson v))
        | .ok _ => throw (.missingAttribute "'list' object has no attribute 'items'")
        | .error e => throw (.notJson (e.render text))
      | v => throw (.wrongType ("the JSON object must be str, bytes or bytearray, not " ++
          v.typeName))
    else pure []
  print "\n\tCategories\n\n"
  echo "Available categories:"
  for (k, v) in chosen do echo ("\t " ++ k.toText ++ ":" ++ v.toText)
  if <- askYesNo "\nWant to edit categories (y/n)" "n" then
    let mut again <- askYesNo "Want to delete any category (y/n)" "n"
    for _ in List.range (<- questionBudget) do
      if !again then break
      if chosen.isEmpty then
        echo "No existing categories available"
        break
      let family <- askLike "Enter the family of category (leave empty to skip)" (.str "")
      if !family.truthy then break
      if chosen.any (·.1.equal family) then chosen := chosen.filter (!·.1.equal family)
      else echo "Invalid family"
      again <- askYesNo "\nWant to delete other category (y/n)" "n"
    let mut adding <- askYesNo "\nWant to add any category (y/n)" "n"
    let mut offered : List Value := []
    if adding then
      offered <- iterate (<- askServer api "categories"
        [("host_pc", hostPc), ("account_uuid", account)])
      echo "Choose from given categories:"
      for (group, i) in offered.zipIdx do
        echo ("\t " ++ toString (i + 1) ++ ". " ++ (<- at! group "key").toText ++ ":" ++
          (<- at! group "value").toText ++ " ")
    for _ in List.range (<- questionBudget) do
      if !adding then break
      let index <- askLike "Enter the index of category (0 to skip) [0]" (.int 0)
      if !index.truthy then break
      let n <- match index with
        | .int n => pure n
        | v => integerOf v
      if n > offered.length || n ≤ 0 then echo "Invalid index !!! "
      else
        let group <- subscript (.list offered) (.int (n - 1))
        let key <- at! group "key"
        if (lookupValue chosen (.str "key")).any Value.truthy then
          echo ("Category corresponding to key " ++ key.toText ++ " already exists ")
        else chosen := putValue chosen key (<- at! group "value")
      adding <- askYesNo "\nWant to add other category (y/n)" "n"
  match (Value.dict chosen).toJson with
  | .ok j => pure (.str (render {} j))
  | .error f => throw f

/-- The network cards of a machine, each with the subnet the user names: one of the project's
    subnets by name, with its cluster when the name is shared, or a macro naming a variable. -/
def askNics (nics : Value) (api : ProviderApi) (subnetIds : List Value) (account : Value) :
    Build Value := do
  print "\n\tNICS data\n\n"
  let filter <- joinTexts "|" (.list subnetIds)
  let found <- askServer api "subnets"
    [("account_uuid", account), ("filter_query", .str ("_entity_id_=in=" ++ filter))]
  let mut clusters : List (Value × List (Value × Value)) := []
  let mut names : List (Value × Value) := []
  for subnet in <- iterate (<- at! found "entities") do
    let name <- path! subnet ["status", "name"]
    let cluster <- path! subnet ["status", "cluster_reference", "name"]
    let uuid <- path! subnet ["metadata", "uuid"]
    names := putValue names uuid name
    clusters := match clusters.find? (·.1.equal name) with
      | some _ => clusters.map fun (k, cs) => if k.equal name then (k, cs ++ [(cluster, uuid)])
          else (k, cs)
      | none => clusters ++ [(name, [(cluster, uuid)])]
  let mut out : List (Value × Value) := []
  for (index, nic) in <- entriesOf nics "items" do
    echo ("\n--Nic " ++ index.toText ++ " -- ")
    let reference <- getOr nic "subnet_reference" .none
    let uuid <- getOr (if reference.truthy then reference else emptyDict) "uuid" .none
    if !uuid.truthy then
      out := out ++ [(index, nic)]
      continue
    echo "Choose from given subnets:"
    for ((name, _), i) in clusters.zipIdx do
      echo ("\t " ++ toString (i + 1) ++ ". " ++ name.toText)
    let mut shown := (lookupValue names uuid).getD (.str "")
    let uuidText <- textFor uuid "startswith"
    if uuidText.startsWith "@@" && uuidText.endsWith "@@" then
      shown := .str ("@@\x7b" ++ textSlice uuidText 3 (-8) ++ "\x7d@@")
    let answer <- askLike ("Subnet for nic " ++ index.toText ++ " [" ++ shown.toText ++ "]") shown
    let answerText <- textFor answer "startswith"
    let subnet <- at! nic "subnet_reference"
    let subnet <- if answerText.startsWith "@@" && answerText.endsWith "@@" then
        updateWith subnet [("uuid", .str ("@@\x7b" ++ textSlice answerText 3 (-3) ++ ".uuid\x7d@@")),
          ("name", .str "")]
      else
        match (clusters.find? (·.1.equal answer)).map (·.2) with
        | some [(_, only)] => updateWith subnet [("name", answer), ("uuid", only)]
        | some (first :: rest) => do
          let choices := first :: rest
          echo "Multiple nic with same name exists. Select from given clusters:"
          for ((cluster, _), i) in choices.zipIdx do
            echo ("\t " ++ toString (i + 1) ++ ". " ++ cluster.toText)
          let picked <- askIndex "Enter index for cluster" choices.length
          let chosenUuid := ((choices.drop (picked.toNat - 1)).head?.map (·.2)).getD .none
          updateWith subnet [("name", answer), ("uuid", chosenUuid)]
        | _ => throw (.missingAttribute "'CustomLogging' object has no attribute 'erro'")
    out := out ++ [(index, <- setKey nic "subnet_reference" subnet)]
  pure (.dict out)

/-- The device of a disk: its kind and bus asked for when the blueprint lets them change, the
    kind otherwise the one the blueprint's disk has. Gives the disk and its kind. -/
def askDiskDevice (index disk blueprintDisk : Value) : Build (Value × Value) := do
  if !(<- hasKey disk "device_properties") then
    return (disk, <- path! blueprintDisk ["device_properties", "device_type"])
  let mut device <- getOr disk "device_properties" emptyDict
  let given <- getOr device "device_type" .none
  let mut kind := given
  if given.truthy then
    echo "\nChoose from given Device Types :"
    for ((name, _), i) in deviceTypes.zipIdx do echo ("\t" ++ toString (i + 1) ++ ". " ++ name)
    let picked <- askChoice ("Device Type name for data disk " ++ index.toText ++ " [" ++
      given.toText ++ "]") (deviceTypes.map fun (n, _) => Value.str n) given
    kind := .str (((deviceTypes.find? (·.1 == picked.toText)).map (·.2)).getD picked.toText)
    device <- setKey device "device_type" kind
  else
    kind <- path! blueprintDisk ["device_properties", "device_type"]
  let address <- getOr device "disk_address" emptyDict
  let bus <- getOr address "adapter_type" .none
  if bus.truthy then
    let buses <- deviceBuses kind
    let shown := if buses.any (fun b => (Value.str b).equal bus) then bus
      else .str (buses.headD "")
    echo "\nChoose from given Device Buses :"
    for (b, i) in buses.zipIdx do echo ("\t" ++ toString (i + 1) ++ ". " ++ b)
    let picked <- askChoice ("Device Bus for data disk " ++ index.toText ++ " [" ++
      shown.toText ++ "]") (buses.map Value.str) shown
    let picked := if picked.truthy then picked else shown
    device <- setKey device "disk_address" (<- setKey (<- at! device "disk_address") "adapter_type" picked)
  pure (<- setKey disk "device_properties" device, kind)

/-- The image of a disk that is cloned from one: one of the cloud's images of the disk's kind
    or of the images the blueprint downloads. -/
def askDiskImage (index disk kind : Value) (api : ProviderApi) (account : Value)
    (downloadable : List (Value × Value)) : Build Value := do
  let given <- getOr disk "data_source_reference" .none
  let reference := if given.truthy then given else emptyDict
  let page <- askServer api "images" [("account_uuid", account)]
  let mut images : List (Value × Value) := []
  for entity in <- iterate (<- getOr page "entities" (.list [])) do
    let imageType <- getOr (<- path! entity ["status", "resources"]) "image_type" .none
    if !imageType.truthy then continue
    if imageType.equal (.str (<- diskImageType kind)) then
      images := putValue images (<- path! entity ["status", "name"]) (<- path! entity ["metadata", "uuid"])
  let names := images.map (·.1)
  let extra := downloadable.map (·.1)
  if names.isEmpty && extra.isEmpty then
    exitWith ("No images found for device type: " ++ kind.toText)
  let first <- match names.head? with
    | some n => pure n
    | none => throw (.outOfRange "list index out of range")
  let mut image <- getOr reference "name" first
  if !(names.any (·.equal image)) && !(extra.any (·.equal image)) then image := first
  echo "\nChoose from given images:"
  if !names.isEmpty then
    echo "Disk Images"
    for (n, i) in names.zipIdx do echo ("\t " ++ toString (i + 1) ++ ". " ++ n.toText)
  if !extra.isEmpty then
    echo "Downloadable Images"
    for (n, i) in extra.zipIdx do echo ("\t " ++ toString (i + 1) ++ ". " ++ n.toText)
  let picked <- askChoice ("\nImage for data disk " ++ index.toText ++ " [" ++ image.toText ++ "]")
    (names ++ extra) image
  let isImage := names.any (·.equal picked)
  let normal <- if isImage && extra.any (·.equal picked) then askYesNo "Is it Disk Image (y/n)" "y"
    else pure isImage
  let source := if normal then
      dictOf [("kind", .str "image"), ("name", picked), ("uuid", (lookupValue images picked).getD .none)]
    else
      dictOf [("kind", .str "app_package"), ("name", picked),
        ("uuid", (lookupValue downloadable picked).getD .none)]
  setKey disk "data_source_reference" source

/-- The disks of a machine, each with its device, and with its image, size or emptiness as the
    operation that fills it requires. -/
def askDisks (disks blueprintDisks : Value) (api : ProviderApi) (account : Value)
    (downloadable : List (Value × Value)) : Build Value := do
  print "\n\tDISKS data\n"
  let mut out : List (Value × Value) := []
  for (index, disk) in <- entriesOf disks "items" do
    echo ("\n-- Data Disk " ++ index.toText ++ " --")
    let blueprintDisk <- subscript blueprintDisks (.int (<- integerOf index))
    let (disk, kind) <- askDiskDevice index disk blueprintDisk
    let hasSource <- hasKey disk "data_source_reference"
    let hasSize <- hasKey disk "disk_size_mib"
    let operation <- if hasSource && hasSize then do
        let operations <- diskOperations kind
        echo "\nChoose from given Operation:"
        for (o, i) in operations.zipIdx do echo ("\t" ++ toString (i + 1) ++ ". " ++ o)
        let source <- at! disk "data_source_reference"
        let size <- at! disk "disk_size_mib"
        let usual := if source.isNone && size.equal (.int 0) then "EMPTY_CDROM"
          else if size.truthy then "ALLOCATE_STORAGE_CONTAINER" else "CLONE_FROM_IMAGE"
        let picked <- askChoice ("Enter the operation type for data disk " ++ index.toText ++
          " [" ++ usual ++ "]") (operations.map Value.str) (.str usual)
        pure picked.toText
      else if hasSource then pure "CLONE_FROM_IMAGE"
      else if hasSize then pure "ALLOCATE_STORAGE_CONTAINER"
      else pure ""
    let disk <- match operation with
      | "CLONE_FROM_IMAGE" => askDiskImage index disk kind api account downloadable
      | "ALLOCATE_STORAGE_CONTAINER" => do
        let size <- wholeGib (<- getOr disk "disk_size_mib" (.int 0))
        let answer <- askLike ("\nSize of disk " ++ index.toText ++ " (GiB) [" ++ size.toText ++ "]") size
        setKey disk "disk_size_mib" (<- arith .mul answer (.int 1024))
      | "EMPTY_CDROM" => updateWith disk [("data_source_reference", .none), ("disk_size_mib", .int 0)]
      | _ => pure disk
    out := out ++ [(index, disk)]
  pure (.dict out)

/-- The serial ports of a machine, each connected or not as the user says. -/
def askSerialPorts (ports : Value) : Build Value := do
  print "\n\tSerial Ports data\n"
  let mut out : List (Value × Value) := []
  for (index, port) in <- entriesOf ports "items" do
    let connected <- at! port "is_connected"
    let yes <- askYesNo ("\nConnection status for serial port " ++ index.toText ++ " (y/n)")
      (if connected.truthy then "y" else "n")
    out := out ++ [(index, <- setKey port "is_connected" (.bool yes))]
  pure (.dict out)

/-- The sysprep data of a Windows machine, asked for when the user wants to give it. -/
def askSysprep (given : Value) : Build (Option Value) := do
  let mut sysprep := if given.truthy then given else emptyDict
  let wanted <- askChoice "Want to enter sysprep data (y/n) [n]" [.str "y", .str "n"] (.str "n")
  if !(wanted.toText.startsWith "y") then return none
  let install <- getOr sysprep "install_type" (.str (installTypes.headD ""))
  echo "\nChoose from given install types "
  for (t, i) in installTypes.zipIdx do echo ("\t " ++ toString (i + 1) ++ ". " ++ t)
  let install <- askChoice ("Install type [" ++ install.toText ++ "]") (installTypes.map Value.str)
    install
  sysprep <- setKey sysprep "install_type" install
  let unattend <- getOr sysprep "unattend_xml" (.str "")
  sysprep <- setKey sysprep "unattend_xml"
    (<- askLike ("\nUnattend XML [" ++ unattend.toText ++ "]") unattend)
  let domain := (<- getOr sysprep "is_domain" (.bool false)).truthy
  let joins <- askYesNo "\nJoin a domain (y/n)" (if domain then "y" else "n")
  sysprep <- setKey sysprep "is_domain" (.bool joins)
  if joins then
    for (key, label) in [("domain", "Domain name"), ("dns_ip", "DNS IP"),
        ("dns_search_path", "DNS Search Path")] do
      let current <- getOr sysprep key (.str "")
      sysprep <- setKey sysprep key (<- askLike ("\n" ++ label ++ " [" ++ current.toText ++ "]") current)
  pure (some sysprep)

/-- The guest customization of a machine, edited when the user wants: the cloud-init user data
    of a Linux machine, the sysprep data of another. -/
def askGuestCustomization (given os : Value) : Build (Option Value) := do
  print "\n\tGuest Customization\n"
  let mut guest := if given.truthy then given else emptyDict
  if !(<- askYesNo "\nEdit Guest Customization (y/n)" "n") then return none
  if os.equal (.str "Linux") then
    let cloudInit <- getOr guest "cloud_init" .none
    let userData <- getOr (if cloudInit.truthy then cloudInit else emptyDict) "user_data" (.str "")
    let userData <- askLike ("\nUser data for guest customization for VM [" ++ userData.toText ++
      "]") userData
    guest <- setKey guest "cloud_init" (dictOf [("user_data", userData)])
  else
    if let some sysprep <- askSysprep (<- getOr guest "sysprep" .none) then
      guest <- setKey guest "sysprep" sysprep
  pure (some guest)

/-- The resources of a machine: network cards, disks, vCPUs, cores, memory, serial ports and
    guest customization, each asked for when the blueprint lets it change. The disks of the
    blueprint's machine, in `createSpec`, give the kinds of the disks whose kind cannot change. -/
def askResources (resources : Value) (api : ProviderApi) (subnetIds : List Value)
    (account createSpec os : Value) (downloadable : List (Value × Value)) : Build Value := do
  let mut resources := resources
  let nics <- getOr resources "nic_list" emptyDict
  if nics.truthy then
    resources <- setKey resources "nic_list" (<- askNics nics api subnetIds account)
  let disks <- getOr resources "disk_list" emptyDict
  let blueprintDisks <- path! createSpec ["resources", "disk_list"]
  if disks.truthy then
    resources <- setKey resources "disk_list" (<- askDisks disks blueprintDisks api account downloadable)
  let cpus <- getOr resources "num_sockets" .none
  if cpus.truthy then
    resources <- setKey resources "num_sockets"
      (<- askLike ("\nvCPUS for the vm [" ++ cpus.toText ++ "]") cpus)
  let cores <- getOr resources "num_vcpus_per_socket" .none
  if cores.truthy then
    resources <- setKey resources "num_vcpus_per_socket"
      (<- askLike ("\nCores per vCPU for the vm [" ++ cores.toText ++ "]") cores)
  let memory <- getOr resources "memory_size_mib" .none
  if memory.truthy then
    let gib <- wholeGib memory
    let answer <- askLike ("\nMemory(GiB) for the vm [" ++ gib.toText ++ "]") gib
    resources <- setKey resources "memory_size_mib" (<- arith .mul answer (.int 1024))
  let ports <- getOr resources "serial_port_list" emptyDict
  if ports.truthy then
    resources <- setKey resources "serial_port_list" (<- askSerialPorts ports)
  if <- hasKey resources "guest_customization" then
    if let some guest <- askGuestCustomization (<- at! resources "guest_customization") os then
      resources <- setKey resources "guest_customization" guest
  pure resources

/-- The Nutanix PC account of a project, and whether the server of that account is the one
    that is asked: the first account of the server's Nutanix PC accounts that the project
    has. -/
def projectPcAccount (accounts : List Value) : Build (Value × Value) := do
  let accountApi := Resource.named "AccountAPI" "accounts"
  let page <- (<- accountApi.list (dictOf [("length", .int 250),
    ("filter", .str "type==nutanix_pc")])).jsonOrRaise
  let mut account : Value := .str ""
  for entity in <- iterate (<- at! page "entities") do
    let uuid <- path! entity ["metadata", "uuid"]
    if accounts.any (·.equal uuid) then
      account := uuid
      break
  if !account.truthy then return (account, .bool true)
  let page <- (<- accountApi.list (dictOf [("length", .int 250),
    ("filter", .str ("_entity_id_==" ++ account.toText))])).jsonOrRaise
  let data <- path! (<- subscript (<- at! page "entities") (.int 0)) ["status", "resources", "data"]
  pure (account, <- at! data "host_pc")

/-- The editables of a Nutanix machine of a substrate, with the user's answers for each part
    that the blueprint lets change. `substrate` is the substrate of the blueprint, and `images`
    the images that the blueprint downloads, by name. -/
def askMachineEditables (editable projectId substrate : Value) (images : List (Value × Value)) :
    Build Value := do
  let api <- providerApi "AHV_VM" (<- get).version
  let project <- (<- (Resource.named "ProjectAPI" "projects").read projectId).jsonOrRaise
  let projectResources <- path! project ["status", "resources"]
  let mut subnetIds : List Value := []
  for subnet in <- iterate (<- at! projectResources "subnet_reference_list") do
    subnetIds := subnetIds ++ [<- at! subnet "uuid"]
  for subnet in <- iterate (<- getOr projectResources "external_network_list" .none) do
    subnetIds := subnetIds ++ [<- at! subnet "uuid"]
  let mut accounts : List Value := []
  for account in <- iterate (<- at! projectResources "account_reference_list") do
    accounts := accounts ++ [<- at! account "uuid"]
  let (account, hostPc) <- projectPcAccount accounts
  let value <- at! editable "value"
  let probe <- getOr value "readiness_probe" emptyDict
  let spec <- getOr value "spec" emptyDict
  if !((<- getOr spec "resources" .none).truthy || (<- getOr spec "categories" .none).truthy ||
      probe.truthy) then
    return editable
  let title <- arith .add (<- arith .add (<- at! editable "context") (.str ".")) (<- at! editable "name")
  print ("\n-- Substrate " ++ title.toText ++ " --\n\n")
  let probe <- askProbe probe
  let createSpec <- at! substrate "create_spec"
  let os <- at! substrate "os_type"
  let mut spec := spec
  let name <- getOr spec "name" .none
  if name.truthy then
    spec <- setKey spec "name" (<- askLike ("\nName of vm [" ++ name.toText ++ "]") name)
  if <- hasKey spec "categories" then
    spec <- setKey spec "categories" (<- askCategories (<- at! spec "categories") api hostPc account)
  let resources <- getOr spec "resources" emptyDict
  let resources <- askResources resources api subnetIds account createSpec os images
  if <- hasKey spec "resources" then spec <- setKey spec "resources" resources
  let mut value := value
  if <- hasKey value "readiness_probe" then value <- setKey value "readiness_probe" probe
  if <- hasKey value "spec" then value <- setKey value "spec" spec
  setKey editable "value" value

end Blueprints.Cli
