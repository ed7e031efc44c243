import Blueprints.Kinds.Protection

namespace Blueprints.Kinds

open Library Build

/-- A runbook whose dag, named after the entity and the action, does nothing on `target`. -/
def emptyRunbook (r : Runtime) (label suffix actionName : String) (target : Value) :
    Build Value := do
  let dagName := "DAG_Task_for_" ++ label ++ "_" ++ suffix ++ "_" ++ actionName
  let dag <- Tasks.groupTask r "DAG" "_dag" (.str dagName) (.list [])
    [("attrs", textDict [("edges", .list [])])] target
  let dagRef <- match dag with
    | .entity d => getRef d
    | v => pure v
  let rbName := "Runbook_for_" ++ label ++ "_" ++ suffix ++ "_" ++ actionName
  let rb <- makeClass .runbook (.str rbName) []
    [("name", .str rbName), ("main_task_local_reference", dagRef), ("tasks", .list [dag])]
  pure (.entity rb)

/-- A service's compiled dictionary: every system action it lacks is added with an empty
    runbook. -/
def compileService (r : Runtime) (e : Entity) : Build Doc := do
  let d <- compileGeneric r e
  let suffix := displayName e
  let mut actions <- iterate ((d.field? "action_list").getD (.list []))
  let present := actions.filterMap fun a => a.entity?.map (·.name)
  for (_, actionName) in Kind.service.systemActions do
    if present.contains actionName then continue
    let target <- getRef e
    let rb <- emptyRunbook r "Service" suffix actionName target
    let act <- makeClass .action (.str actionName) [<- root .action]
      [("name", .str actionName), ("description", .str ""), ("critical", .bool true),
       ("type", .str "system"), ("runbook", rb)]
    actions := actions ++ [.entity act]
  pure (d.put "action_list" (.list actions))

/-- The runbook of the action a package defines under a system name, if it defines one. -/
def definedRunbook (r : Runtime) (e : Entity) (key : String) : Build Value := do
  if (e.lookup? key).isNone then return .none
  match <- r.attr (.entity e) key with
  | .entity a => pure ((a.lookup? "runbook").getD .none)
  | _ => pure .none

/-- What the empty runbooks of a package run on: its first service. -/
def packageTarget (e : Entity) : Build Value := do
  match e.lookup? "services" with
  | some (.list (first :: _)) => pure first
  | _ => throw (.badValue "package do not have any service referenced")

/-- The image package that a downloadable disk image describes, compiled. -/
def compileDiskPackage (r : Runtime) (e : Entity) : Build Doc := do
  let config <- compileGeneric r e
  let pkgName := e.name
  let part (k : String) : Value := config.field k
  let get (d : Value) (k : String) : Value := entryOr d k .none
  let orText (v : Value) (dflt : String) : Value := if v.truthy then v else .str dflt
  let image := part "image"
  let product := part "product"
  let imageType := orText (get image "type") "DISK_IMAGE"
  let version := textDict [("product_version", orText (get product "version") "1.0"),
    ("product_name", orText (get product "name") pkgName)]
  let architecture := entryOr image "architecture" (.str "X86_64")
  let mut resources : List (String × Value) := [("image_type", imageType),
    ("source_uri", orText (get image "source_uri") ""), ("version", version),
    ("architecture", architecture)]
  if imageType.isText "ISO_IMAGE" then
    let checksum := part "checksum"
    resources := resources ++ [("checksum", textDict [
      ("checksum_algorithm", entryOr checksum "algorithm" (.str "")),
      ("checksum_value", entryOr checksum "value" (.str ""))])]
  let options := textDict [("name", orText (get image "name") pkgName),
    ("description", .str ""), ("resources", textDict resources)]
  let pkg <- makeClass .package (.str pkgName) []
    [("type", .str "SUBSTRATE_IMAGE"), ("name", config.field "name"), ("options", options),
     ("description", config.field "description")]
  r.compile [] pkg

/-- A package's compiled dictionary, by its type. -/
def compilePackage (r : Runtime) (e : Entity) : Build Doc := do
  if e.kind == .vmDiskPackage then return <- compileDiskPackage r e
  let ptype := (e.lookup? "type").getD .none
  match ptype with
  | .str "K8S_IMAGE" =>
    let d <- compileGeneric r e
    pure (d.put "options" (.dict []))
  | .str "CUSTOM" =>
    let suffix := displayName e
    let mut install <- definedRunbook r e "__install__"
    if !install.truthy then
      install <- emptyRunbook r "Package" suffix "action_install" (<- packageTarget e)
    let mut uninstall <- definedRunbook r e "__uninstall__"
    if !uninstall.truthy then
      uninstall <- emptyRunbook r "Package" suffix "action_uninstall" (<- packageTarget e)
    let d <- compileGeneric r e
    let d := (d.remove "image_spec").put "options"
      (textDict [("install_runbook", install), ("uninstall_runbook", uninstall)])
    pure (d.remove "action_list")
  | .str "SUBSTRATE_IMAGE" =>
    let mut d <- compileGeneric r e
    match d.field "options" with
    | .dict entries =>
      if !entries.isEmpty then
        d := d.put "options" (.dict (dictDrop (dictDrop entries "install_runbook")
          "uninstall_runbook"))
    | _ => pure ()
    pure (d.remove "image_spec")
  | v => throw (.failure ("Un-supported package type " ++ v.toText))

/-- A profile's compiled dictionary: no description, snapshot and restore configurations only
    together, and its one environment by uuid. -/
def compileProfile (r : Runtime) (e : Entity) : Build Doc := do
  let mut d <- compileGeneric r e
  d := d.remove "description"
  let restores := d.field "restore_config_list"
  let snapshots := d.field "snapshot_config_list"
  if restores.truthy && !snapshots.truthy then
    logError
      "No RestoreConfig found. Please add/associate a RestoreConfig with the SnapshotConfig(s)."
    throw (.exit "Missing snapshot configs")
  if snapshots.truthy && !restores.truthy then
    logError "No snapshot config found. Cannot use RestoreConfig without a SnapshotConfig."
    throw (.exit "Missing restore configs")
  d <- applyConfigs r d
  let environments <- iterate ((d.field? "environment_reference_list").getD (.list []))
  d := d.remove "environment_reference_list"
  if environments.length > 1 then
    exitWith "Multiple environments are not allowed in a profile."
  let mut uuids : List Value := []
  for env in environments do
    uuids := uuids ++ [<- subscript (<- getDict r env) (.str "uuid")]
  if !uuids.isEmpty then d := d.put "environment_reference_list" (.list uuids)
  pure d

/-- A blueprint's compiled dictionary: brownfield when a deployment is, and the first default
    credential when it names none. -/
def compileBlueprint (r : Runtime) (e : Entity) : Build Doc := do
  let mut d <- compileGeneric r e
  let profiles <- iterate ((d.field? "app_profile_list").getD (.list []))
  for p in profiles do
    for dep in <- iterate (<- attrOfValue r p "deployments") do
      if (<- attrOfValue r dep "type").isText "K8S_DEPLOYMENT" then
        throw (.unsupported "pod deployments in blueprints")
  let mut brownfield := false
  for p in profiles do
    for dep in <- iterate (<- attrOfValue r p "deployments") do
      if (<- attrOfValue r dep "type").isText "BROWNFIELD" then brownfield := true
  if brownfield then
    d := d.put "type" (.str "BROWNFIELD")
    if profiles.length > 1 then
      exitWith "Multiple profiles are not allowed in brownfield application"
  let mut defaultCred := (d.field? "default_credential_local_reference").getD .none
  d := d.remove "default_credential_local_reference"
  if !defaultCred.truthy then
    let creds <- match d.field "credential_definition_list" with
      | .none => pure []
      | v => iterate v
    for c in creds do
      if (<- attrOfValue r c "default").truthy then
        defaultCred <- match c with
          | .entity ce => getRef ce
          | v => r.call (<- attrOfValue r v "get_ref") [] []
        break
  if defaultCred.truthy then d := d.put "default_credential_local_reference" defaultCred
  pure d

/-- Metadata's compiled dictionary: an empty owner, categories or project is left out. -/
def compileMetadata (r : Runtime) (e : Entity) : Build Doc := do
  let mut d <- compileGeneric r e
  for key in ["owner_reference", "categories", "project_reference"] do
    if !(d.field key).truthy then d := d.remove key
  pure d

end Blueprints.Kinds
