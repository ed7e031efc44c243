import Blueprints.Cli.Marketplace.Review
import Blueprints.Cli.Blueprints

namespace Blueprints.Cli

open Library Http Api Build

def appIcons : Resource := Resource.named "AppIconAPI" "app_icons"

/-- Uploads an icon from a file, under a name. -/
def uploadIcon (name path : String) : Build Outcome := do
  let content <- Build.readFile path
  let image : FilePart := { field := "image", fileName := name, content,
                            contentType := some "image/jpeg" }
  Call.send { method := .post, endpoint := appIcons.base ++ "/upload",
              payload := dictOf [("name", .str name)], files := some [image] }

/-- The icons of an item: the icon of a name, uploaded first from a file when one is given. An
    icon that the server does not have ends the command. -/
def iconReferences (name : String) (file : Option String) : Build Value := do
  if let some f := file.filter (!·.isEmpty) then
    let _ <- uploadIcon name f
  let map <- appIcons.nameUuidMap emptyDict
  let uuid <- match map with
    | .dict entries => pure ((entries.find? (·.1.equal (.str name))).map (·.2) |>.getD .none)
    | _ => pure .none
  if !uuid.truthy then exitWith ("App icon: " ++ name ++ " not found")
  pure (.list [dictOf [("icon_type", .str "ICON"),
    ("icon_reference", dictOf [("kind", .str "file_item"), ("uuid", uuid)])]])

/-- How a new version is published: its name and version, and what else is done with it. -/
structure PublishRequest where
  itemName : String
  version : String
  description : String := ""
  withSecrets : Bool := false
  toStore : Bool := false
  approve : Bool := false
  projects : List String := []
  family : Option String := none
  icon : Option String := none
  iconFile : Option String := none
  allProjects : Bool := false

/-- The item of a new version: its spec around the resources, which get the icon asked for. -/
def itemPayload (req : PublishRequest) (resources : Value) : Build Value := do
  let mut resources := resources
  if let some i := req.icon.filter (!·.isEmpty) then
    resources <- setKey resources "icon_reference_list" (<- iconReferences i req.iconFile)
  pure (dictOf [("spec", dictOf [("name", .str req.itemName),
      ("description", .str req.description), ("resources", resources)]),
    ("api_version", .str "3.0"), ("metadata", dictOf [("kind", .str "marketplace_item")])])

/-- Creates an item in the marketplace manager; a failure ends the command. -/
def createItem (payload : Value) : Build Unit := do
  let outcome <- marketplaceItems.create payload
  let _ <- outcome.json
  let _ <- outcome.jsonOrExit

/-- The fields that every new version has, in a group of versions. -/
def baseResources (req : PublishRequest) (group : Value) : Build (List (String × Value)) := do
  let settings <- serverSettings
  pure [("app_attribute_list", .list [.str "FEATURED"]), ("icon_reference_list", .list []),
    ("author", .str (settings.serverValue "pc_username")), ("version", .str req.version),
    ("app_group_uuid", group)]

/-- Publishes a blueprint to the marketplace manager, in a group of versions or a new one. -/
def publishBlueprintVersion (bpName : String) (req : PublishRequest) (group : Option Value) :
    Build Unit := do
  let _ <- serverSettings
  let bp <- blueprintNamed bpName
  let bpUuid <- getOr (<- getOr bp "metadata" emptyDict) "uuid" (.str "")
  logInfo "Fetching blueprint details"
  let exported := blueprints.item bpUuid ++
    (if req.withSecrets then "/export_json?keep_secrets=true" else "/export_json")
  let data <- (<- getAt exported).jsonOrExit
  let state <- path! data ["status", "state"]
  if !state.isText "ACTIVE" then
    exitWith ("Blueprint is in " ++ state.toText ++
      " state. Unable to publish it to marketplace manager")
  let group <- match group with
    | some g => pure g
    | none => do pure (.str (<- Build.freshId))
  let template := dictOf [("status", <- at! data "status"), ("spec", <- at! data "spec")]
  let mut resources := .dict ((<- baseResources req group) ++
    [("app_blueprint_template", template)] |>.map fun (k, v) => (.str k, v))
  if <- serverAtLeast "3.2.0" then resources <- setKey resources "type" (.str "blueprint")
  createItem (<- itemPayload req resources)
  logInfo "Marketplace Blueprint is published to marketplace manager successfully"

/-- Publishes a runbook to the marketplace manager, in a group of versions or a new one. -/
def publishRunbookVersion (runbookName : String) (req : PublishRequest) (withEndpoints : Bool)
    (group : Option Value) : Build Unit := do
  let _ <- serverSettings
  let runbook <- findRunbook runbookName
  let runbookUuid <- getOr (<- getOr runbook "metadata" emptyDict) "uuid" (.str "")
  let group <- match group with
    | some g => pure g
    | none => do pure (.str (<- Build.freshId))
  let info := dictOf [("is_published_with_secrets", .bool req.withSecrets),
    ("is_published_with_endpoints", .bool withEndpoints),
    ("source_runbook_reference", dictOf [("uuid", runbookUuid), ("kind", .str "runbook"),
      ("name", .str runbookName)])]
  let resources := .dict ((<- baseResources req group) ++
    [("type", .str "runbook"), ("runbook_template_info", info)] |>.map fun (k, v) => (.str k, v))
  createItem (<- itemPayload req resources)
  logInfo "Marketplace Runbook is published to marketplace manager successfully"

/-- Makes sure no local item has a name yet. -/
def ensureNewItem (what : String) (kind : Option String) (name : String) : Build Unit := do
  logInfo ("Fetching existing marketplace " ++ what ++ "s with name " ++ name)
  let response <- marketplaceGroups
    { name := some name, memberCount := 1, source := some "LOCAL", kind }
  if (<- at! response "filtered_group_count").truthy then
    exitWith ("A local marketplace item exists with same name (" ++ name ++
      ") in another app family")

/-- The group of versions of a local item that a new version joins; the item must exist and
    must not have the version among its accepted, published or pending ones. -/
def existingGroup (what : String) (kind : Option String) (name version : String) :
    Build Value := do
  logInfo ("Fetching existing marketplace " ++ what ++ "s with name " ++ name)
  let response <- marketplaceGroups
    { name := some name, memberCount := 1, source := some "LOCAL", kind }
  let groups <- at! response "group_results"
  if !groups.truthy then
    exitWith ("No local marketplace " ++ what ++ " exists with name " ++ name)
  let group <- at! (<- subscript groups (.int 0)) "group_by_column_value"
  logInfo ("Fetching existing versions of Marketplace Item " ++ name)
  let response <- marketplaceGroups
    { group := if group.truthy then some group.toText else none,
      states := ["ACCEPTED", "PUBLISHED", "PENDING"] }
  let entities <- at! (<- subscript (<- at! response "group_results") (.int 0)) "entity_results"
  for entity in <- iterate entities do
    let data <- at! entity "data"
    let existing <- groupValue data "version"
    let state <- groupValue data "app_state"
    if existing.equal (.str version) then
      exitWith ("An item exists with same version (" ++ existing.toText ++
        ") and app_state (" ++ state.toText ++ ") in the chosen app family.")
  pure group

/-- Approves a new version at once, and publishes it to the store, when that is asked for. -/
def reviewNewVersion (req : PublishRequest) : Build Unit := do
  if req.toStore || req.approve then
    let projects <- if req.projects.isEmpty then do pure [<- contextProject]
      else pure req.projects
    approveItem req.itemName (.str req.version) projects req.family req.allProjects none
    if req.toStore then
      publishItem req.itemName (.str req.version) [] none (some "LOCAL") false none

/-- The request that the options of a publishing command make, for an item named after the
    blueprint or runbook unless a name is given. -/
def publishRequest (values : ParamValues) (sourceName : String) : PublishRequest :=
  { itemName := (textValue? values "name").filter (!·.isEmpty) |>.getD sourceName,
    version := textValue values "version",
    description := textValue values "description",
    withSecrets := flagValue values "with_secrets",
    toStore := flagValue values "publish_to_marketplace",
    approve := flagValue values "auto_approve",
    projects := textsValue values "projects",
    family := textValue? values "category",
    icon := textValue? values "icon_name",
    iconFile := textValue? values "icon_file",
    allProjects := flagValue values "all_projects" }

def publishBlueprintToManager (values : ParamValues) : Build Unit := do
  let _ <- serverSettings
  let bpName := textValue values "bp_name"
  let req := publishRequest values bpName
  if flagValue values "existing_markeplace_bp" then
    let group <- existingGroup "blueprint" (some "blueprint") req.itemName req.version
    publishBlueprintVersion bpName req (some group)
  else
    ensureNewItem "blueprint" (some "blueprint") req.itemName
    publishBlueprintVersion bpName req none
  reviewNewVersion req

/-- `publish runbook`. Its endpoints are never published with it, and approving it at once
    shares it with the projects given only. -/
def publishRunbookToManager (values : ParamValues) : Build Unit := do
  let _ <- serverSettings
  let runbookName := textValue values "runbook_name"
  let req := { publishRequest values runbookName with allProjects := false }
  if flagValue values "existing_markeplace_runbook" then
    let group <- existingGroup "runbook" none req.itemName req.version
    publishRunbookVersion runbookName req false (some group)
  else
    ensureNewItem "runbook" none req.itemName
    publishRunbookVersion runbookName req false none
  reviewNewVersion req

end Blueprints.Cli
