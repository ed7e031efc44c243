import Blueprints.Cli.Jobs

namespace Blueprints.Cli

open Library Http Api Build

def marketplaceItems : Resource := Resource.named "MarketPlaceAPI" "calm_marketplace_items"

def groupsQuery : Resource := Resource.named "GroupAPI" "groups"

/-- The attributes of an item that the grouping query reads. -/
def groupMemberAttributes : List String :=
  ["name", "type", "author", "version", "categories", "owner_reference", "owner_username",
   "project_names", "project_uuids", "app_state", "description", "spec_version",
   "app_attribute_list", "app_group_uuid", "icon_list", "change_log", "app_source"]

/-- What the grouping query asks for: items of a name, an application family, states, a source,
    a group of versions and a type, with a filter of the user's, and at most `memberCount`
    versions an item when that is not zero. -/
structure ItemQuery where
  name : Option String := none
  family : String := "All"
  states : List String := []
  memberCount : Nat := 0
  source : Option String := none
  group : Option String := none
  kind : Option String := none
  filterBy : String := ""

/-- The filter of the grouping query for a query. The type of the items is asked for only from
    servers that know it. -/
def ItemQuery.filter (q : ItemQuery) : Build String := do
  let mut filter := "marketplace_item_type_list==APP"
  if !q.states.isEmpty then filter := filter ++ statesFilter "app_state" q.states
  if q.family != "All" then
    filter := filter ++ ";category_name==AppFamily;category_value==" ++ q.family
  if !q.filterBy.isEmpty then filter := filter ++ ";(" ++ q.filterBy ++ ")"
  if let some n := q.name.filter (!·.isEmpty) then filter := filter ++ ";name==" ++ n
  if let some s := q.source.filter (!·.isEmpty) then filter := filter ++ ";app_source==" ++ s
  if let some g := q.group.filter (!·.isEmpty) then filter := filter ++ ";app_group_uuid==" ++ g
  if let some k := q.kind then
    if <- serverAtLeast "3.2.0" then filter := filter ++ ";type==" ++ k
  pure filter

/-- Asks the grouping query for items of the marketplace. A failure ends the command. -/
def marketplaceGroups (q : ItemQuery) : Build Value := do
  let mut payload := dictOf [
    ("group_member_sort_attribute", .str "version"),
    ("group_member_sort_order", .str "DESCENDING"),
    ("grouping_attribute", .str "app_group_uuid"),
    ("group_count", .int 64), ("group_offset", .int 0),
    ("filter_criteria", .str (<- q.filter)), ("entity_type", .str "marketplace_item"),
    ("group_member_attributes", .list (groupMemberAttributes.map fun a =>
      dictOf [("attribute", .str a)]))]
  if q.memberCount != 0 then payload <- setKey payload "group_member_count" (.int q.memberCount)
  let outcome <- groupsQuery.create payload
  outcome.exitOnError
  outcome.json

/-- The value of a field among the data of an item that the grouping query gave: its first
    value, or all of its values; none when the field is missing or has no value. -/
def groupValue (data : Value) (field : String) (all : Bool := false) : Build Value := do
  for entry in <- iterate data do
    if (<- at! entry "name").isText field then
      let values <- at! entry "values"
      if !values.truthy then return .none
      let first <- at! (<- subscript values (.int 0)) "values"
      if all then return first
      return <- subscript first (.int 0)
  pure .none

/-- A text cut to a width with an ellipsis; a dash for no text. -/
def truncated (v : Value) (width : Nat := 50) : Build String := do
  if !v.truthy then return "-"
  let text := v.toText
  if (<- lengthOf v) > width then return String.ofList (text.toList.take (width - 1)) ++ "..."
  pure text

/-- How many projects an item is shared with, in words. -/
def availableTo (data : Value) : Build String := do
  let names <- groupValue data "project_names" true
  if !names.truthy then return "-"
  let count <- lengthOf names
  pure (toString count ++ (if count == 1 then " Project" else " Projects"))

/-- Writes the names of the items, one line each: the first version of each item. -/
def printItemNames (groups : Value) : Build Unit := do
  for group in <- iterate groups do
    let first <- subscript (<- at! group "entity_results") (.int 0)
    echo (<- groupValue (<- at! first "data") "name").toText

def listStoreItems (values : ParamValues) : Build Unit := do
  let _ <- serverSettings
  let all := flagValue values "display_all"
  let response <- marketplaceGroups
    { name := textValue? values "name", family := (textValue? values "app_family").getD "All",
      states := ["PUBLISHED"], memberCount := if all then 0 else 1,
      filterBy := (textValue? values "filter_by").getD "" }
  let groups <- at! response "group_results"
  if flagValue values "quiet" then
    printItemNames groups
    return
  let mut headers := ["NAME", "TYPE", "DESCRIPTION", "AUTHOR", "APP_SOURCE"]
  if all then headers := ["NAME", "VERSION", "AVAILABLE TO", "TYPE", "DESCRIPTION", "AUTHOR",
    "APP_SOURCE", "UUID"]
  let mut rows : List (List String) := []
  for group in <- iterate groups do
    for entity in <- iterate (<- at! group "entity_results") do
      let data <- at! entity "data"
      let available <- availableTo data
      let name := (<- groupValue data "name").toText
      let kind := (<- groupValue data "type").toText
      let description <- truncated (<- groupValue data "description")
      let author := (<- groupValue data "author").toText
      let source := (<- groupValue data "app_source").toText
      if all then
        let version := (<- groupValue data "version").toText
        let uuid := (<- at! entity "entity_id").toText
        rows := rows ++ [[name, version, available, kind, description, author, source, uuid]]
      else rows := rows ++ [[name, kind, description, author, source]]
  printGrid headers rows

/-- The states asked for on the command line. -/
def statesValue (values : ParamValues) : List String := textsValue values "app_states"

/-- `get marketplace bps` and `get marketplace runbooks`: the items of a type in every state. -/
def listManagerItems (kind : String) (values : ParamValues) : Build Unit := do
  let _ <- serverSettings
  let response <- marketplaceGroups
    { name := textValue? values "name", family := (textValue? values "app_family").getD "All",
      states := statesValue values, kind := some kind,
      filterBy := (textValue? values "filter_by").getD "" }
  let groups <- at! response "group_results"
  if flagValue values "quiet" then
    printItemNames groups
    return
  let headers := ["NAME", "TYPE", "APP_SOURCE", "OWNER", "AUTHOR", "AVAILABLE TO", "VERSION",
    "CATEGORY", "STATUS", "UUID"]
  let mut rows : List (List String) := []
  for group in <- iterate groups do
    for entity in <- iterate (<- at! group "entity_results") do
      let data <- at! entity "data"
      let available <- availableTo data
      let categories <- groupValue data "categories"
      let category <- if categories.truthy then
          match categories.toText.splitOn ":" with
          | _ :: second :: _ => pure second
          | _ => throw (.outOfRange "list index out of range")
        else pure "-"
      let owner <- groupValue data "owner_username"
      rows := rows ++ [[(<- groupValue data "name").toText, (<- groupValue data "type").toText,
        (<- groupValue data "app_source").toText, if owner.truthy then owner.toText else "-",
        (<- groupValue data "author").toText, available, (<- groupValue data "version").toText,
        category, (<- groupValue data "app_state").toText, (<- at! entity "entity_id").toText]]
  printGrid headers rows

/-- The newest version of an item of some states, source and type; an item the marketplace
    does not have ends the command. -/
def latestVersion (name : String) (source : Option String) (states : List String)
    (kind : Option String := none) : Build Value := do
  let response <- marketplaceGroups
    { name := some name, states, memberCount := 1, source, kind }
  let groups <- at! response "group_results"
  if !groups.truthy then exitWith ("No Marketplace Item found with name " ++ name)
  let entities <- at! (<- subscript groups (.int 0)) "entity_results"
  groupValue (<- at! (<- subscript entities (.int 0)) "data") "version"

/-- An item of a name and version among those of some states, source and type, read in full;
    one the marketplace does not have ends the command. -/
def itemOfVersion (name : String) (version : Value) (states : List String)
    (source : Option String) (kind : Option String := none) : Build Value := do
  let mut filter <- arith .add (.str ("name==" ++ name ++ ";version==")) version
  if !states.isEmpty then filter <- arith .add filter (.str (statesFilter "app_state" states))
  if let some s := source.filter (!·.isEmpty) then
    filter <- arith .add filter (.str (";app_source==" ++ s))
  if let some k := kind then
    if <- serverAtLeast "3.2.0" then filter <- arith .add filter (.str (";type==" ++ k))
  let outcome <- marketplaceItems.list (dictOf [("length", .int 250), ("filter", filter)])
  outcome.exitOnError
  let response <- outcome.json
  let entities <- at! response "entities"
  if !entities.truthy then
    exitWith ("No Marketplace Item found with name " ++ name ++ " and version " ++
      version.toText)
  let uuid <- path! (<- subscript entities (.int 0)) ["metadata", "uuid"]
  let read <- marketplaceItems.read uuid
  read.exitOnError
  read.json

def describeMarketplaceItem (name out : String) (version : Option String)
    (source : Option String) (states : List String) : Build Unit := do
  let _ <- serverSettings
  let version <- match version.filter (!·.isEmpty) with
    | some v => pure (Value.str v)
    | none => do
      logInfo ("Fetching latest version of Marketplace Item " ++ name ++ " ")
      let v <- latestVersion name source states
      logInfo v.toText
      pure v
  logInfo ("Fetching details of Marketplace Item " ++ name)
  let item <- itemOfVersion name version states source
  let resources <- path! item ["status", "resources"]
  if out == "json" then
    let template <- at! resources "app_blueprint_template"
    printJson (<- popOr template "status" .none).2
    return
  let typed <- serverAtLeast "3.2.0"
  echo "\n----MarketPlace Item Summary----\n"
  echo ("Name: " ++ name ++ " (uuid: " ++ (<- path! item ["metadata", "uuid"]).toText ++ ")")
  if typed then echo ("Type: " ++ (<- at! resources "type").toText)
  echo ("Description: " ++ (<- path! item ["status", "description"]).toText)
  echo ("App State: " ++ (<- at! resources "app_state").toText)
  echo ("Author: " ++ (<- at! resources "author").toText)
  let shared <- at! resources "project_reference_list"
  echo ("Projects shared with [" ++ toString (<- lengthOf shared) ++ "]: ")
  for p in <- iterate shared do echo ("\t" ++ (<- at! p "name").toText)
  let categories <- getOr (<- at! item "metadata") "categories" emptyDict
  if categories.truthy then
    echo ("Categories [" ++ toString (<- lengthOf categories) ++ "]: ")
    match categories with
    | .dict entries =>
      for (k, v) in entries do echo ("\t " ++ k.toText ++ " : " ++ v.toText)
    | _ => throw (categories.noAttribute "items")
  let changeLog <- at! resources "change_log"
  echo ("Change Log: " ++ (if changeLog.truthy then changeLog.toText else "No logs present"))
  echo ("Version: " ++ (<- at! resources "version").toText)
  echo ("App Source: " ++ (<- at! resources "app_source").toText)
  let kind <- if typed then at! resources "type" else pure (.str "blueprint")
  if kind.isText "blueprint" then
    let template <- at! resources "app_blueprint_template"
    let profiles <- path! template ["status", "resources", "app_profile_list"]
    let actions <- at! (<- subscript profiles (.int 0)) "action_list"
    echo ("App actions [" ++ toString (<- lengthOf actions) ++ "]: ")
    for a in <- iterate actions do
      print ("\t" ++ (<- at! a "name").toText ++ " : ")
      let d <- at! a "description"
      echo (if d.truthy then d.toText else "No description avaiable")
  else
    let info <- at! resources "runbook_template_info"
    let endpoints <- at! info "is_published_with_endpoints"
    let secrets <- at! info "is_published_with_secrets"
    echo ("Published with Endpoints: " ++ endpoints.toText)
    echo ("Published with Secrets:: " ++ secrets.toText)

/-- `describe marketplace item`: an item of the store, which is published. -/
def describeStoreItem (values : ParamValues) : Build Unit :=
  describeMarketplaceItem (textValue values "name") (textValue values "out")
    (textValue? values "version") (textValue? values "source") ["PUBLISHED"]

/-- `describe marketplace bp` and `describe marketplace runbook`. -/
def describeManagerItem (values : ParamValues) : Build Unit :=
  describeMarketplaceItem (textValue values "name") (textValue values "out")
    (textValue? values "version") (textValue? values "source")
    ((textValue? values "app_state").filter (!·.isEmpty)).toList

end Blueprints.Cli
