import Blueprints.Kinds.Core
import Blueprints.Library.Tasks
import Blueprints.Value.Operators

namespace Blueprints.Kinds

open Library Build

/-- Whether a character may stand in the name of a configuration's action as it is. -/
def keptInActionName (c : Char) : Bool := c.isAlphanum || c == '-' || c == '_'

/-- Replaces every run of characters that may not stand in an action name by one `_`;
    `inRun` says whether the character before was replaced. -/
def collapseRuns : List Char -> Bool -> List Char
  | [], _ => []
  | c :: cs, inRun =>
    if keptInActionName c then c :: collapseRuns cs false
    else if inRun then collapseRuns cs true
    else '_' :: collapseRuns cs true

/-- The name of the action that runs a configuration of type `title` (`Restore`, `Snapshot`):
    the type and `_`, then the configuration's name without a leading `<title>_Config`, with its
    other characters made fit for a name. -/
def configActionName (title name : String) : String :=
  let marker := title ++ "_Config"
  let suffix := if name.startsWith marker then (name.splitOn marker).getD 1 "" else name
  title ++ "_" ++ String.ofList (collapseRuns suffix.toList false)

/-- The action `actionName` that runs configuration `config` on `target`: a dag whose one task
    calls the configuration. -/
def configAction (config target : Value) (actionName : String) : Build Value := do
  let configRef <- targetRef config
  let mut callKw : List (String × Value) := [("name", .str ("Call_Config_Task_" ++ actionName)),
    ("type", .str "CALL_CONFIG"), ("attrs", textDict [("config_spec_reference", configRef)])]
  callKw := callKw ++ [("target_any_local_reference", <- targetRef target)]
  let call <- Tasks.taskCreate callKw
  let callRef <- match call with
    | .entity c => getRef c
    | v => pure v
  let dag <- Tasks.taskCreate [("name", .str ("DAG_Task_" ++ actionName)),
    ("child_tasks_local_reference_list", .list [callRef]),
    ("attrs", textDict [("edges", .list [])]), ("type", .str "DAG")]
  let dagRef <- match dag with
    | .entity d => getRef d
    | v => pure v
  let rbName := actionName ++ "_runbook"
  let rb <- makeClass .runbook (.str rbName) []
    [("name", .str rbName), ("main_task_local_reference", dagRef), ("tasks", .list [dag, call])]
  let act <- makeClass .action (.str actionName) [<- root .action]
    [("name", .str actionName), ("description", .str ""), ("critical", .bool true),
     ("type", .str "user"), ("runbook", .entity rb)]
  pure (.entity act)

/-- The first entry of a configuration's attribute list. -/
def configAttrs (r : Runtime) (config : Value) : Build Value := do
  subscript (<- attrOfValue r config "attrs_list") (.int 0)

/-- Fixes a configuration to a deployment, its own or else the profile's first, and gives it the
    server's type for configurations of `kind` on AHV machines; deployments on other machines
    are refused. -/
def fixConfig (r : Runtime) (d : Doc) (config : Entity) (kind typeName : String) :
    Build Entity := do
  let first <- configAttrs r (.entity config)
  let mut config := config
  let mut target <- subscript first (.str "target_any_local_reference")
  if target.isNone then
    let deployment <- subscript ((d.field? "deployment_create_list").getD .none) (.int 0)
    target <- match deployment with
      | .entity de => getRef de
      | v => r.call (<- attrOfValue r v "get_ref") [] []
    let first' <- match first with
      | .dict entries => pure (Value.dict (dictPut entries "target_any_local_reference" target))
      | v => throw v.noItemAssignment
    let rest <- match <- attrOfValue r (.entity config) "attrs_list" with
      | .list (_ :: rest) => pure rest
      | _ => pure []
    config := config.setAttr "attrs_list" (.list (first' :: rest))
  let deployment <- attrOfValue r target "__self__"
  let substrate <- attrOfValue r (<- attrOfValue r deployment "substrate") "__self__"
  let providerType <- attrOfValue r substrate "provider_type"
  if !providerType.isText "AHV_VM" then
    logError ("Config is not supported for " ++ providerType.toText ++
      " provider. Please try again after changing the provider")
    throw (.exit (providerType.toText ++ " doesn't support " ++ kind ++ " config"))
  config.set "type" (.str typeName)

/-- Refuses a configuration listed under `listName` that is not of kind `k`. -/
def expectConfig (v : Value) (k : Kind) (label listName : String) : Build Entity := do
  match v with
  | .entity e => if e.kind == k then return e
  | _ => pure ()
  logError (v.toText ++ " is not an object of " ++ label ++ ". " ++ listName)
  throw (.exit (v.toText ++ " is not an instance of " ++ label))

/-- The profile's configurations fixed to deployments and typed, with the actions that run its
    restore and snapshot configurations added. -/
def applyConfigs (r : Runtime) (d : Doc) : Build Doc := do
  let mut d := d
  let mut actions <- iterate ((d.field? "action_list").getD (.list []))
  let mut actionNames : List Value := []
  for a in actions do actionNames := actionNames ++ [<- attrOfValue r a "name"]
  let mut patches : List Value := []
  for v in <- iterate ((d.field? "patch_list").getD (.list [])) do
    let config <- expectConfig v .patchConfigSpec "PatchConfig"
      "patch_config is an array of PatchConfig objects"
    patches := patches ++ [.entity (<- fixConfig r d config "patch" "PATCH")]
  if d.any (·.1 == "patch_list") then d := d.put "patch_list" (.list patches)
  let mut restores : List Value := []
  for v in <- iterate ((d.field? "restore_config_list").getD (.list [])) do
    let config <- expectConfig v .restoreConfigSpec "RestoreConfig"
      "restore_configs is an array of AppProtection.RestoreConfig objects"
    let config <- fixConfig r d config "restore" "AHV_RESTORE"
    let name := configActionName "Restore" (<- attrOfValue r (.entity config) "name").toText
    if !actionNames.any (·.isText name) then
      let target <- subscript (<- configAttrs r (.entity config)) (.str "target_any_local_reference")
      actions := actions ++ [<- configAction (.entity config) target name]
    restores := restores ++ [.entity config]
  if d.any (·.1 == "restore_config_list") then d := d.put "restore_config_list" (.list restores)
  let mut snapshots : List Value := []
  for v in <- iterate ((d.field? "snapshot_config_list").getD (.list [])) do
    let config <- expectConfig v .snapshotConfigSpec "SnapshotConfig"
      "snapshot_configs is an array of AppProtection.SnapshotConfig objects"
    let mut config <- fixConfig r d config "snapshot" "AHV_SNAPSHOT"
    if !(<- attrOfValue r (.entity config) "config_references").truthy then
      let firstRestore <- subscript (.list restores) (.int 0)
      let restoreRef <- match firstRestore with
        | .entity re => getRef re
        | v => pure v
      config <- config.set "config_references" (.list [restoreRef])
    let name := configActionName "Snapshot" (<- attrOfValue r (.entity config) "name").toText
    if !actionNames.any (·.isText name) then
      let target <- subscript (<- configAttrs r (.entity config)) (.str "target_any_local_reference")
      actions := actions ++ [<- configAction (.entity config) target name]
    snapshots := snapshots ++ [.entity config]
  if d.any (·.1 == "snapshot_config_list") then
    d := d.put "snapshot_config_list" (.list snapshots)
  if d.any (·.1 == "action_list") then d := d.put "action_list" (.list actions)
  pure d

end Blueprints.Kinds
