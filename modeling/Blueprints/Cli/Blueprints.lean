import Blueprints.Cli.Listings
import Blueprints.Api.Handle

namespace Blueprints.Cli

open Library Http Build Text Api

def blueprints : Api.Resource := .named "BlueprintAPI" "blueprints"

/-- The uuid of the blueprint of a name, among those not deleted unless `all` is set, and
    among the brownfield ones when `brownfield` is set. -/
def blueprintUuid (name : String) (all : Bool := false) (brownfield : Bool := false) :
    Build Value := do
  let filter := "name==" ++ name ++ (if all then "" else ";state!=DELETED") ++
    (if brownfield then ";type==BROWNFIELD" else "")
  let response <- (<- blueprints.list (dictOf [("filter", .str filter)])).jsonOrRaise
  let entities <- getOr response "entities" .none
  if !entities.truthy then
    let msg := "No blueprint found with name " ++ name ++ " found"
    logError msg
    throw (.exit msg)
  if (<- iterate entities).length != 1 then
    exitWith ("More than one blueprint found - " ++ entities.toText)
  logInfo (name ++ " found ")
  path! (<- subscript entities (.int 0)) ["metadata", "uuid"]

/-- The blueprint of a name as the server reads it. -/
def blueprintNamed (name : String) (all : Bool := false) (brownfield : Bool := false) :
    Build Value := do
  let uuid <- blueprintUuid name all brownfield
  (<- blueprints.read uuid).jsonOrRaise

/-- The data that the local cache keeps for the account of a uuid: a missing account has none,
    so that reading a field of it fails as a missing key. -/
def cachedAccountData (uuid : Value) (field : String) : Build Value := do
  let some account := (<- get).cache.accountById? uuid.toText
    | throw (.missingKey (if field == "name" then "'name'" else "'data'"))
  match field with
  | "name" => pure (.str account.name)
  | _ =>
    match account.pcAccount with
    | some pc => pure (.str pc)
    | none => throw (.missingKey "'pc_account_uuid'")

/-- The name of the account that a substrate uses: none for an existing machine, and for a
    Nutanix substrate the PC account that manages its cluster's account. -/
def substrateAccountName (substrate : Value) : Build (Option String) := do
  let kind <- getOr substrate "type" (.str "")
  if kind.isText "EXISTING_VM" then return none
  let accountUuid <- path! substrate ["create_spec", "resources", "account_uuid"]
  let accountUuid <- if kind.isText "AHV_VM" then cachedAccountData accountUuid "pc_account_uuid"
    else pure accountUuid
  pure (some (<- cachedAccountData accountUuid "name").toText)

def describeBlueprint (values : ParamValues) : Build Unit := do
  let _ <- serverSettings
  let name := textValue values "bp_name"
  let bp <- blueprintNamed name true
  if textValue values "out" == "json" then
    let (_, rest) <- popOr bp "status" .none
    return <- printJson rest
  let metadata <- at! bp "metadata"
  let status <- at! bp "status"
  echo "\n----Blueprint Summary----\n"
  echo ("Name: " ++ name ++ " (uuid: " ++ (<- at! metadata "uuid").toText ++ ")")
  echo ("Description: " ++ (<- at! status "description").toText)
  echo ("Status: " ++ (<- at! status "state").toText)
  print ("Owner: " ++ (<- path! metadata ["owner_reference", "name"]).toText)
  echo (" Project: " ++ (<- path! metadata ["project_reference", "name"]).toText)
  let created <- secondsOf (<- at! metadata "creation_time")
  echo ("Created: " ++ ctime created ++ " (" ++ ago created ++ ")")
  let resources <- getOr status "resources" emptyDict
  let profiles <- iterate (<- getOr resources "app_profile_list" (.list []))
  echo ("Application Profiles [" ++ toString profiles.length ++ "]:")
  for profile in profiles do
    echo ("\t" ++ (<- at! profile "name").toText)
    let deployments <- iterate (<- getOr profile "deployment_create_list" (.list []))
    echo ("\tDeployments[" ++ toString deployments.length ++ "]:")
    for dep in deployments do
      echo ("\t\t" ++ (<- at! dep "name").toText)
      let wanted <- getOr (<- getOr dep "substrate_local_reference" emptyDict) "uuid" .none
      let mut substrate : Value := .none
      for sub in <- iterate (<- getOr resources "substrate_definition_list" .none) do
        if (<- getOr sub "uuid" .none).equal wanted then substrate := sub
      let kind <- getOr substrate "type" (.str "")
      let account <- substrateAccountName substrate
      echo "\t\tSubstrate:"
      echo ("\t\t\t" ++ (<- at! substrate "name").toText)
      echo ("\t\t\tType: " ++ kind.toText)
      if let some a := account then
        if !a.isEmpty then echo ("\t\t\tAccount: " ++ a)
    let actions <- iterate (<- at! profile "action_list")
    echo ("\tActions[" ++ toString actions.length ++ "]:")
    for action in actions do
      let actionName := (<- at! action "name").toText
      let shown := if actionName.startsWith "action_" then (actionName.drop 7).toString
        else actionName
      echo ("\t\t" ++ shown)
  let services <- iterate (<- getOr resources "service_definition_list" (.list []))
  echo ("Services [" ++ toString services.length ++ "]:")
  for service in services do
    echo ("\t" ++ (<- at! service "name").toText)

def deleteBlueprints (values : ParamValues) : Build Unit := do
  let _ <- serverSettings
  let names := match values.lookup "blueprint_names" with
    | some (.tuple xs) | some (.list xs) => xs.map Value.toText
    | _ => []
  for name in names do
    let uuid <- blueprintUuid name
    let outcome <- blueprints.delete uuid
    outcome.exitOnError
    logInfo ("Blueprint " ++ name ++ " deleted")

end Blueprints.Cli
