import Blueprints.Starter.Templates
import Blueprints.Template.Render
import Blueprints.Library.Files
import Blueprints.Http.Client
import Blueprints.Text.Case

namespace Blueprints.Starter
open Build Text Http Templates

/-- Text with every word capitalized: a letter after a letter is small, any other letter a
    capital. -/
def titleCase (s : String) : String :=
  let rec go : Bool -> List Char -> List Char
    | _, [] => []
    | afterLetter, c :: rest =>
      let c' := if isCased c then (if afterLetter then lower c else upper c) else c
      c' :: go (isCased c) rest
  String.ofList (go false s.toList)

/-- The name of a new project: the first word of the name given, title-cased. -/
def projectName (given : String) : Build String :=
  match splitBlanks given with
  | w :: _ => pure (titleCase w)
  | [] => throw (.outOfRange "list index out of range")

/-- The runbook file of a new runbook project named `name`, for the server of the settings. -/
def runbookText (name : String) : Build String := do
  let settings <- serverSettings
  let text <- Template.render runbookFile (.dict [(.str "runbook_name", .str name),
    (.str "pc_ip", .str (settings.serverValue "pc_ip")),
    (.str "pc_port", .str (settings.serverValue "pc_port"))])
  pure (text ++ "\n")

/-- The files of a new runbook project named `name`, by their paths. -/
def runbookFiles (name : String) : Build (List (String × String)) := do
  pure [(name ++ "Runbook/runbook.py", <- runbookText name),
    (name ++ "Runbook/scripts/entity_stats.py2", entityStatsScript)]

/-- The first allowed subnet of the first Nutanix account of a project, with its cluster and the
    account. -/
def machinePlaceQuiet (project : String) : Build (String × String × AccountRow) := do
  let cache := (<- get).cache
  let some row := cache.projects.find? (·.name == project)
    | exitWith ("Project " ++ project ++ " not found. Please run: calm update cache")
  let accountIds := row.accountsOf "nutanix_pc"
  if accountIds.isEmpty then
    logError ("No nutanix_pc account registered to project " ++ project)
  let some accountId := accountIds.head? | throw (.outOfRange "list index out of range")
  let some account := cache.accounts.find? (·.uuid == accountId)
    | exitWith ("Account (uuid=" ++ accountId ++ ") not found. Please update cache")
  if row.whitelistedSubnets.isEmpty then
    exitWith ("No subnets registered to project " ++ project)
  let subnetIds := ((row.whitelistedSubnets.find? (·.1 == account.uuid)).map (·.2)).getD []
  let some subnetId := subnetIds.head?
    | exitWith ("No subnets registered to project " ++ project ++
        " for Nutanix PC account " ++ account.name ++ ".")
  let some subnet := cache.subnets.find? fun s => s.uuid == subnetId && s.accountUuid == account.uuid
    | exitWith ("Subnet configuration mismatch in registered account's subnets and " ++
        "whitelisted subnets in project")
  pure (subnet.name, subnet.cluster, account)

/-- Tells which account, cluster and subnet a new blueprint's machine uses. -/
def logPlace (account : AccountRow) (subnet cluster : String) : Build Unit :=
  logInfo ("Using Nutanix PC account " ++ account.name ++ ", cluster " ++ cluster ++
    ", subnet " ++ subnet)

/-- The subnet and cluster that a new blueprint's machine uses: the first allowed subnet of the
    first Nutanix account of the project. -/
def machinePlace (project : String) : Build (String × String) := do
  let (subnet, cluster, account) <- machinePlaceQuiet project
  logPlace account subnet cluster
  pure (subnet, cluster)

/-- The text that stands for a generated private key. -/
def privateKeyMask : String := "<RSA PRIVATE KEY>"

/-- The text that stands for a generated public key. -/
def publicKeyMask : String := "<RSA PUBLIC KEY>"

/-- The blueprint file of a new blueprint named `name` for a provider; a provider without a
    template is told about and replaced by the Nutanix provider. -/
def blueprintSource (name : String) (provider : String) : Build String := do
  if provider != "AHV_VM" then
    print ("Provider " ++ provider ++ " not supported. Using AHV_VM as provider\n")
  let (subnet, cluster) <- machinePlace (<- contextProject)
  logInfo "Rendering ahv template"
  let text <- Template.render blueprintFile (.dict [(.str "bp_name", .str name),
    (.str "subnet_name", .str subnet), (.str "cluster_name", .str cluster)])
  pure (text ++ "\n")

/-- The first disk image of a Nutanix account, which the server lists. -/
def firstDiskImage (account : String) : Build String := do
  let params := Value.dict [(.str "length", .int 250), (.str "offset", .int 0),
    (.str "filter", .str ("account_uuid==" ++ account))]
  let path := "api/nutanix/v3/nutanix/v1/images/list"
  let outcome <- Http.Call.send { method := .post, endpoint := path, payload := params, ignoreError := true }
  let unable {α : Type} : Build α :=
    exitWith ("Unable to fetch images for Nutanix_PC Account(uuid=" ++ account ++ ")")
  if outcome.error.isSome then return <- unable
  let images <- try
      let res <- outcome.json
      let entities <- iterate (<- at! res "entities")
      entities.mapM fun entity => do
        let status <- at! entity "status"
        let kind := match <- at! status "resources" with
          | .dict es => (Library.dictGet? es "image_type").getD .none
          | _ => .none
        pure ((<- at! status "name").toText, kind.isText "DISK_IMAGE")
    catch _ => (unable : Build (List (String × Bool)))
  match images.find? (·.2) with
  | some (name, _) => pure name
  | none => exitWith ("No Disk image found on account(uuid='" ++ account ++ "')")

/-- The blueprint file of a new single-machine blueprint named `name`, on the Nutanix provider:
    its machine boots from the first disk image of the account. -/
def singleVmBlueprintSource (name : String) : Build String := do
  let (subnet, cluster, account) <- machinePlaceQuiet (<- contextProject)
  let image <- firstDiskImage account.uuid
  logPlace account subnet cluster
  logInfo "Rendering ahv template"
  let text <- Template.render singleVmBlueprintFile (.dict [(.str "bp_name", .str name),
    (.str "subnet_name", .str subnet), (.str "cluster_name", .str cluster),
    (.str "vm_image", .str image)])
  pure (text ++ "\n")

/-- Writes a new blueprint project named after `given` in a directory. -/
def writeBlueprintProject (dir given provider bpType : String) : Build Unit := do
  let name <- projectName given
  let bpDir := joinPath dir (name ++ "Blueprint")
  logInfo "Generating keys for credentials"
  Library.Files.writeAt (bpDir ++ "/.local/keys/centos") privateKeyMask
  Library.Files.writeAt (bpDir ++ "/.local/keys/centos_pub") publicKeyMask
  Library.Files.writeAt (bpDir ++ "/scripts/pkg_install_task.sh") installScript
  Library.Files.writeAt (bpDir ++ "/scripts/pkg_uninstall_task.sh") uninstallScript
  let text <- if bpType == "SINGLE_VM" then do
      if provider != "AHV_VM" then
        print ("Provider " ++ provider ++ " not supported. Using AHV_VM as provider\n")
      singleVmBlueprintSource name
    else do
      let text <- blueprintSource name provider
      pure text
  let path := joinPath bpDir "blueprint.py"
  logInfo ("Writing bp file to " ++ path)
  Library.Files.writeAt path text

/-- Writes a new runbook project named after `given` in a directory. -/
def writeRunbookProject (dir given : String) : Build Unit := do
  let name <- projectName given
  let rbDir := joinPath dir (name ++ "Runbook")
  Library.Files.writeAt (rbDir ++ "/scripts/entity_stats.py2") entityStatsScript
  logInfo "Rendering runbook template"
  let text <- runbookText name
  logInfo "Success"
  let path := joinPath rbDir "runbook.py"
  logInfo ("Writing runbook file to " ++ path)
  Library.Files.writeAt path text
  logInfo "Success"

end Blueprints.Starter
