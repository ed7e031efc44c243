import Blueprints.Cli.Marketplace

namespace Blueprints.Cli

open Library Http Api Build Kinds

/-- A step of the review of an item. -/
inductive ReviewStep where
  | approve
  | reject
  | publish
  | unpublish
deriving DecidableEq, Repr

namespace ReviewStep

/-- The state an item must be in for the step. -/
def source : ReviewStep -> String
  | approve | reject => "PENDING"
  | publish => "ACCEPTED"
  | unpublish => "PUBLISHED"

def target : ReviewStep -> String
  | approve => "ACCEPTED"
  | reject => "REJECTED"
  | publish => "PUBLISHED"
  | unpublish => "ACCEPTED"

/-- How the state the step starts from is named in messages. -/
def sourceWord : ReviewStep -> String
  | approve | reject => "pending"
  | publish => "accepted"
  | unpublish => "published"

/-- What the message of looking up the newest version calls the item. -/
def latestWhat : ReviewStep -> String
  | approve => "Marketplace Item "
  | reject => "pending Marketplace Item "
  | publish => "accepted Marketplace Item "
  | unpublish => "published Marketplace Item "

/-- What the step does to an item that holds an inactive blueprint, for the steps that look. -/
def blueprintCheck : ReviewStep -> Option String
  | approve => some "approve it"
  | publish => some "publish it to marketplace"
  | _ => none

end ReviewStep

/-- The item of the marketplace reference to a project. -/
def projectReference (name uuid : Value) : Value :=
  dictOf [("kind", .str "project"), ("name", name), ("uuid", uuid)]

/-- `xs.append(x)` on a value that must be a list. -/
def appendValue (xs x : Value) : Build Value :=
  match xs with
  | .list items => pure (.list (items ++ [x]))
  | v => throw (v.noAttribute "append")

/-- The application families that the server knows. -/
def appFamilies : Build (List Value) := do
  let families := Resource.named "ResourceAPI" "categories/AppFamily"
  let response <- (<- families.list emptyDict).jsonOrExit
  (<- iterate (<- at! response "entities")).mapM (at! · "value")

/-- An item set to an application family, which must be one that the server knows. -/
def withFamily (item : Value) (family : String) : Build Value := do
  let families <- appFamilies
  if !families.any (·.equal (.str family)) then
    exitWith (family ++ " is not a valid App Family category")
  setPath item ["metadata", "categories"] (dictOf [("AppFamily", .str family)])

/-- References to projects by the server's map of project names: every project it lists, or the
    named ones, each of which must be in the map. -/
def projectReferences (names : List String) (all : Bool) : Build (List Value) := do
  let map <- (Resource.named "ProjectAPI" "projects").nameUuidMap (dictOf [("length", .int 250)])
  if all then
    return (<- entriesOf map "items").map fun (k, v) => projectReference k v
  names.mapM fun p => do pure (projectReference (.str p) (<- subscript map (.str p)))

/-- The projects of an item with references added at the end. -/
def withProjects (item current : Value) (added : List Value) : Build Value := do
  let mut list := current
  for r in added do list <- appendValue list r
  setPath item ["spec", "resources", "project_reference_list"] list

/-- An item as the server reads it again, ready to be written back: without its status and with
    the version of the API. -/
def itemForUpdate (uuid : Value) : Build Value := do
  let item <- (<- marketplaceItems.read uuid).jsonOrExit
  let (_, item) <- popOr item "status" .none
  setKey item "api_version" (.str "3.0")

/-- Writes an item back to the server; a failure ends the command. -/
def writeItem (uuid item : Value) : Build Unit := do
  let _ <- (<- marketplaceItems.update uuid item).jsonOrExit

/-- The item that a step reviews, read again and set to the step's target state, with its uuid
    and version. -/
def itemToReview (step : ReviewStep) (name : String) (version : Value)
    (source kind : Option String) : Build (Value × Value × Value) := do
  let version <- if version.truthy then pure version else do
    logInfo ("Fetching latest version of " ++ step.latestWhat ++ name ++ " ")
    let latestSource := if step == .approve || step == .reject then none else source
    let v <- latestVersion name latestSource [step.source] kind
    logInfo v.toText
    pure v
  logInfo ("Fetching details of " ++ step.sourceWord ++ " marketplace item " ++ name ++
    " with version " ++ version.toText)
  let lookupSource := match step with
    | .approve => some "LOCAL"
    | .reject => none
    | _ => source
  let found <- itemOfVersion name version [step.source] lookupSource kind
  let uuid <- path! found ["metadata", "uuid"]
  if let some doing := step.blueprintCheck then
    let itemKind <- if <- serverAtLeast "3.2.0" then path! found ["status", "resources", "type"]
      else pure (.str "blueprint")
    if itemKind.isText "blueprint" then
      let state <- path! found ["status", "resources", "app_blueprint_template", "status", "state"]
      if !state.isText "ACTIVE" then
        exitWith ("Item is in " ++ state.toText ++ " state. Unable to " ++ doing)
  let item <- itemForUpdate uuid
  let item <- setPath item ["spec", "resources", "app_state"] (.str step.target)
  pure (uuid, item, version)

/-- Approves a pending item: it is accepted, set to a family if one is given, and shared with
    more projects. -/
def approveItem (name : String) (version : Value) (projects : List String)
    (family : Option String) (allProjects : Bool) (kind : Option String) : Build Unit := do
  let _ <- serverSettings
  let (uuid, item, version) <- itemToReview .approve name version none kind
  let mut item := item
  if let some f := family.filter (!·.isEmpty) then item <- withFamily item f
  let current <- getOr (<- path! item ["spec", "resources"]) "project_reference_list" emptyDict
  let current := if current.truthy then current else .list []
  item <- setPath item ["spec", "resources", "project_reference_list"] current
  item <- withProjects item current (<- projectReferences projects allProjects)
  writeItem uuid item
  logInfo ("Marketplace Item " ++ name ++ " with version " ++ version.toText ++
    " is approved successfully")

/-- Publishes an accepted item to the store: set to a family if one is given, shared with the
    given projects instead of those it had, and with at least one project. -/
def publishItem (name : String) (version : Value) (projects : List String)
    (family : Option String) (source : Option String) (allProjects : Bool)
    (kind : Option String) : Build Unit := do
  let _ <- serverSettings
  let (uuid, item, _) <- itemToReview .publish name version source kind
  let mut item := item
  if let some f := family.filter (!·.isEmpty) then item <- withFamily item f
  if !projects.isEmpty || allProjects then
    item <- setPath item ["spec", "resources", "project_reference_list"] (.list [])
    item <- withProjects item (.list []) (<- projectReferences projects allProjects)
  let shared <- getOr (<- path! item ["spec", "resources"]) "project_reference_list" .none
  if !shared.truthy then
    exitWith "To publish to the Marketplace, please provide a project first."
  writeItem uuid item
  logInfo "Marketplace Item is published to marketplace successfully"

def rejectItem (name : String) (version : Value) (kind : Option String) :
    Build Unit := do
  let _ <- serverSettings
  let (uuid, item, version) <- itemToReview .reject name version none kind
  writeItem uuid item
  logInfo ("Marketplace Item " ++ name ++ " with version " ++ version.toText ++
    " is rejected successfully")

/-- Takes a published item out of the store, back to the accepted ones. -/
def unpublishItem (name : String) (version : Value) (source kind : Option String) :
    Build Unit := do
  let _ <- serverSettings
  let (uuid, item, version) <- itemToReview .unpublish name version source kind
  writeItem uuid item
  logInfo ("Marketplace Item " ++ name ++ " with version " ++ version.toText ++
    " is unpublished successfully")

/-- Takes a published blueprint out of the store. The newest published version is taken when
    none is given, and the item found must be a blueprint. -/
def unpublishBlueprintItem (name : String) (version : Value) (source : Option String) :
    Build Unit := do
  let _ <- serverSettings
  let version <- if version.truthy then pure version else do
    logInfo ("Fetching latest version of published Marketplace Item " ++ name ++ " ")
    let v <- latestVersion name source ["PUBLISHED"] (some "blueprint")
    logInfo v.toText
    pure v
  logInfo ("Fetching details of published marketplace blueprint " ++ name ++
    " with version " ++ version.toText)
  let found <- itemOfVersion name version ["PUBLISHED"] source (some "blueprint")
  let itemKind <- if <- serverAtLeast "3.2.0" then path! found ["status", "resources", "type"]
    else pure (.str "blueprint")
  if !itemKind.isText "blueprint" then
    exitWith ("Marketplace blueprint " ++ name ++ " with version " ++ version.toText ++
      " not found")
  unpublishItem name version source (some "blueprint")

/-- Updates an item of any state but rejected: its family, the projects it is shared with
    (which replace those it had) and its description, each when given. -/
def updateItem (name version : String) (family : Option String) (projects : List String)
    (description source kind : Option String) : Build Unit := do
  let _ <- serverSettings
  logInfo ("Fetching details of marketplace item " ++ name ++ " with version " ++ version)
  let found <- itemOfVersion name (.str version) ["ACCEPTED", "PUBLISHED", "PENDING"] source kind
  let uuid <- path! found ["metadata", "uuid"]
  let mut item <- itemForUpdate uuid
  if let some f := family.filter (!·.isEmpty) then item <- withFamily item f
  if !projects.isEmpty then
    item <- setPath item ["spec", "resources", "project_reference_list"] (.list [])
    let mut refs : List Value := []
    for p in projects do
      let project <- fetchProject p
      refs := refs ++ [projectReference (.str p) (<- path! project ["metadata", "uuid"])]
    item <- withProjects item (.list []) refs
  if let some d := description.filter (!·.isEmpty) then
    item <- setPath item ["spec", "description"] (.str d)
  writeItem uuid item
  logInfo ("Marketplace Item " ++ name ++ " with version " ++ version ++
    " is updated successfully")

/-- Deletes an item that is not published: one of the given state, or else accepted, rejected
    or pending. -/
def deleteItem (name version : String) (source state kind : Option String) : Build Unit := do
  let _ <- serverSettings
  let state := state.filter (!·.isEmpty)
  if state == some "PUBLISHED" then exitWith ("Unpublish MPI " ++ name ++ " first to delete it")
  let states := match state with
    | some s => [s]
    | none => ["ACCEPTED", "REJECTED", "PENDING"]
  logInfo ("Fetching details of unpublished marketplace item " ++ name ++ " with version " ++
    version)
  let found <- itemOfVersion name (.str version) states source kind
  let uuid <- path! found ["metadata", "uuid"]
  let outcome <- marketplaceItems.delete uuid
  let _ <- outcome.json
  let _ <- outcome.jsonOrExit
  logInfo ("Marketplace Item " ++ name ++ " with version " ++ version ++
    " is deleted successfully")

/-- The version given on the command line, none when it is not. -/
def versionValue (values : ParamValues) : Value :=
  match textValue? values "version" with
  | some v => .str v
  | none => .none

/-- `approve marketplace bp` and `approve marketplace runbook`. -/
def approveItemCommand (kind : String) (values : ParamValues) : Build Unit :=
  approveItem (textValue values "name") (versionValue values) (textsValue values "projects")
    (textValue? values "category") (flagValue values "all_projects") (some kind)

/-- `publish marketplace bp` and `publish marketplace runbook`. -/
def publishItemCommand (kind : String) (values : ParamValues) : Build Unit :=
  publishItem (textValue values "name") (versionValue values) (textsValue values "projects")
    (textValue? values "category") (textValue? values "source") (flagValue values "all_projects")
    (some kind)

/-- `reject marketplace bp` and `reject marketplace runbook`. -/
def rejectItemCommand (kind : String) (values : ParamValues) : Build Unit :=
  rejectItem (textValue values "name") (versionValue values) (some kind)

def unpublishBlueprintCommand (values : ParamValues) : Build Unit :=
  unpublishBlueprintItem (textValue values "name") (versionValue values)
    (textValue? values "source")

def unpublishItemCommand (values : ParamValues) : Build Unit :=
  unpublishItem (textValue values "name") (versionValue values) (textValue? values "source")
    none

/-- `update marketplace bp` and `update marketplace runbook`. -/
def updateItemCommand (kind : String) (values : ParamValues) : Build Unit :=
  updateItem (textValue values "name") (textValue values "version") (textValue? values "category")
    (textsValue values "projects") (textValue? values "description") (textValue? values "source")
    (some kind)

/-- `delete marketplace bp` and `delete marketplace runbook`. -/
def deleteItemCommand (kind : String) (values : ParamValues) : Build Unit :=
  deleteItem (textValue values "name") (textValue values "version") (textValue? values "source")
    (textValue? values "app_state") (some kind)

end Blueprints.Cli
