import Blueprints.Cli.Access

namespace Blueprints.Cli

open Library Http Api Build

/-- The collection of access control policies. -/
def accessPolicies : Resource := Resource.named "AccessControlPolicyAPI" "access_control_policies"

/-- Which entities of a kind a filter of a policy admits. -/
inductive Scope where
  | all
  | selfOwned
  | among (uuids : List Value)

/-- The right-hand side of a filter that admits a scope. -/
def Scope.toValue : Scope -> Value
  | .all => dictOf [("collection", .str "ALL")]
  | .selfOwned => dictOf [("collection", .str "SELF_OWNED")]
  | .among uuids => dictOf [("uuid_list", .list uuids)]

/-- A filter that admits entities of a kind within a scope. -/
def entityFilter (kind : String) (scope : Scope) : Value :=
  dictOf [("operator", .str "IN"), ("left_hand_side", dictOf [("entity_type", .str kind)]),
    ("right_hand_side", scope.toValue)]

/-- The filters of a consumer, which developers share. -/
def consumerFilters : List Value :=
  [entityFilter "image" .all, entityFilter "marketplace_item" .selfOwned,
   entityFilter "app_icon" .all, entityFilter "category" .all,
   entityFilter "app_task" .selfOwned, entityFilter "app_variable" .selfOwned]

/-- The filters of a project admin of a project. -/
def projectAdminFilters (project : Value) : List Value :=
  [entityFilter "image" .all, entityFilter "marketplace_item" .selfOwned,
   entityFilter "directory_service" .all, entityFilter "role" .all,
   entityFilter "project" (.among [project]), entityFilter "user" .all,
   entityFilter "user_group" .all, entityFilter "environment" .selfOwned,
   entityFilter "app_icon" .all, entityFilter "category" .all,
   entityFilter "app_task" .selfOwned, entityFilter "app_variable" .selfOwned]

/-- The filters of a role in a project whose subnets lie in the clusters given: those of the
    role, then the clusters themselves when there are any. -/
def roleFilters (role : String) (project : Value) (clusters : List Value) : List Value :=
  let own := match role with
    | "Project Admin" => projectAdminFilters project
    | "Developer" | "Consumer" => consumerFilters
    | "Operator" => if clusters.isEmpty then [] else consumerFilters
    | _ => []
  own ++ (if clusters.isEmpty then [] else
    [dictOf [("operator", .str "IN"), ("left_hand_side", dictOf [("entity_type", .str "cluster")]),
      ("right_hand_side", dictOf [("uuid_list", .list clusters)])]])

/-- The contexts of a new policy: the project itself, and the filters of the role if it has
    any. -/
def policyContexts (role : String) (project : Value) (clusters : List Value) : List Value :=
  let projectContext := dictOf [
    ("scope_filter_expression_list", .list [dictOf [("operator", .str "IN"),
      ("left_hand_side", .str "PROJECT"), ("right_hand_side", dictOf [("uuid_list", .list [project])])]]),
    ("entity_filter_expression_list", .list [entityFilter "ALL" .all])]
  let filters := roleFilters role project clusters
  projectContext :: (if filters.isEmpty then [] else
    [dictOf [("entity_filter_expression_list", .list filters)]])

/-- The uuid of a project of a name among the first thousand; a name that no project has ends
    the command with the message given the name. -/
def projectUuidAmongAll (name : String) (notFound : String -> String) : Build Value := do
  let map <- projects.nameUuidMap (dictOf [("length", .int 1000)])
  let uuid <- getOr map name (.str "")
  if !uuid.truthy then exitWith (notFound name)
  pure uuid

/-- The policies of a project as its full record lists them, or the error of reading it: each
    with its status and metadata, those of a role or of a name only when one is given. A name
    is found once at most. The page from `offset` of `limit` policies is kept, with the number
    of all that matched. -/
def projectPolicies (project : Value) (role name : Option Value := none) (limit : Int := 20)
    (offset : Int := 0) : Build (Except Value Value) := do
  let outcome <- projectDetails.read project
  if let some err := outcome.error then return .error err
  let record <- outcome.json
  let mut found : List Value := []
  for policy in <- iterate (<- path! record ["status", "access_control_policy_list_status"]) do
    let status <- at! policy "access_control_policy_status"
    if let some r := role.filter (·.truthy) then
      if !r.equal (<- path! status ["resources", "role_reference", "uuid"]) then continue
    let named := name.filter (·.truthy)
    if let some n := named then
      if !n.equal (<- at! status "name") then continue
    found := found ++ [dictOf [("status", status), ("metadata", <- at! policy "metadata")]]
    if named.isSome then break
  pure (.ok (dictOf [("entities", .list (sliceItems found offset (offset + limit))),
    ("metadata", dictOf [("total_matches", .int found.length)])]))

/-- Replaces a project's full record and watches the task that carries the change out, after
    writing the policy's name with the task; a failed request ends the command. -/
def applyPolicyChange (project record : Value) (name : String) (what : String) : Build Unit := do
  let outcome <- projectDetails.update project record
  outcome.exitOnErrorText
  let context <- path! (<- outcome.json) ["status", "execution_context"]
  printJson (dictOf [("name", .str name), ("execution_context", context)])
  logInfo ("Polling on acp " ++ what ++ " task")
  let _ <- taskState (<- at! context "task_uuid").toText 2

/-- A project's full record for changing it, without its status; a failed request ends the
    command. -/
def recordToChange (project : Value) : Build Value := do
  let outcome <- projectDetails.read project
  outcome.exitOnErrorText
  pure (dictErase (<- outcome.json) "status")
where
  dictErase (v : Value) (key : String) : Value :=
    match v with
    | .dict es => .dict (es.filter fun (k, _) => !k.equal (.str key))
    | v => v

/-- Marks every policy of a record's list, by the operation that its name calls for. -/
def markPolicies (record : Value) (operation : Value -> Build String) : Build Value := do
  let spec <- at! record "spec"
  let mut marked : List Value := []
  for policy in <- iterate (<- getOr spec "access_control_policy_list" (.list [])) do
    marked := marked ++ [<- setKey policy "operation" (.str (<- operation policy))]
  setKey record "spec" (<- setKey spec "access_control_policy_list" (.list marked))

/-- `get acps`: the policies of a project. -/
def listAccessPolicies (values : ParamValues) : Build Unit := do
  let _ <- serverSettings
  let projectName := textValue values "project"
  let project <- projectUuidAmongAll projectName fun n => "Project '" ++ n ++ "' not found"
  let limit := paramValue values "limit"
  let offset <- integerOf (paramValue values "offset")
  let found <- projectPolicies project none none (<- integerOf limit) offset
  let response <- match found with
    | .ok r => pure r
    | .error _ => return <- cannotFetch "acps"
  warnTruncated response limit
  if textValue values "out" == "json" then return <- printJson response
  let policies <- entitiesOf response
  if policies.isEmpty then return <- noneFound "acp"
  if flagValue values "quiet" then return <- printNames policies statusName
  printGrid ["NAME", "REFERENCED_ROLE", "REFERENCED_PROJECT", "UUID"] (<- policies.mapM fun p => do
    let status <- at! p "status"
    let role <- getOr (<- at! status "resources") "role_reference" (.dict [])
    pure [(<- at! status "name").toText, (<- getOr role "name" (.str "-")).toText, projectName,
      (<- Api.path! p ["metadata", "uuid"]).toText])

/-- `describe acp`: a policy of a project, its state, role, users and groups. -/
def describeAccessPolicy (values : ParamValues) : Build Unit := do
  let _ <- serverSettings
  let name := textValue values "acp_name"
  let projectName := textValue values "project"
  let project <- projectUuidAmongAll projectName fun n => "Project '" ++ n ++ "' not found"
  let .ok found <- projectPolicies project none (some (.str name)) 1000 | return
  if (<- Api.path! found ["metadata", "total_matches"]).equal (.int 0) then
    exitWith ("No ACP found with name '" ++ name ++ "' and project '" ++ projectName ++ "'")
  let uuid <- Api.path! (<- subscript (<- at! found "entities") (.int 0)) ["metadata", "uuid"]
  logInfo ("Fetching acp " ++ name ++ " details")
  let outcome <- accessPolicies.read uuid
  outcome.exitOnErrorText
  let policy <- outcome.json
  if textValue values "out" == "json" then return <- printJson policy
  print "\n----ACP Summary----\n\n"
  print ("Name: " ++ name ++ " (uuid: " ++ uuid.toText ++ ")\n")
  print ("Status: " ++ (<- Api.path! policy ["status", "state"]).toText ++ "\n")
  print ("Project: " ++ projectName ++ "\n")
  let resources <- Api.path! policy ["status", "resources"]
  let users <- getOr resources "user_reference_list" (.list [])
  let groups <- getOr resources "user_group_reference_list" (.list [])
  let role <- getOr resources "role_reference" (.list [])
  if role.truthy then
    let roleUuid <- at! role "uuid"
    let some known := (<- get).cache.roles.find? (·.uuid == roleUuid.toText)
      | exitWith ("Role (" ++ roleUuid.toText ++ ") details not present. Please update cache")
    print ("Role: " ++ known.name ++ "\n")
  if users.truthy then
    let names <- directoryUsers.uuidNameMap (dictOf [("length", .int 1000)])
    print ("Users [" ++ toString (<- lengthOf users) ++ "]:\n")
    for user in <- iterate users do
      print ("\t" ++ (<- subscript names (<- at! user "uuid")).toText ++ "\n")
  if groups.truthy then
    let names <- groupUuidNameMap userGroups (dictOf [("length", .int 1000)])
    print ("Groups [" ++ toString (<- lengthOf groups) ++ "]:\n")
    for group in <- iterate groups do
      print ("\t" ++ (<- subscript names (<- at! group "uuid")).toText ++ "\n")

/-- Ends the command when some of the users or groups are not registered in a place. -/
def requireRegistered (what : String) (wanted known : List String) (place : String) :
    Build Unit := do
  let missing := missingFrom wanted known
  if !missing.isEmpty then
    exitWith (what ++ " " ++ textSet missing ++ " are not registered in " ++ place)

/-- References to users by name, each with the uuid the server lists for it. -/
def userReferences (names : List String) (uuids : Value) : Build (List Value) :=
  names.mapM fun n => do
    pure (dictOf [("kind", .str "user"), ("name", .str n), ("uuid", <- subscript uuids (.str n))])

/-- References to user groups by name, each with the uuid the server lists for it. -/
def groupReferences (names : List String) (uuids : Value) : Build (List Value) :=
  names.mapM fun n => do
    pure (dictOf [("kind", .str "user_group"), ("name", .str n),
      ("uuid", <- subscript uuids (.str n))])

def createAcp (values : ParamValues) : Build Unit := do
  let users := textsValue values "users"
  let groups := textsValue values "groups"
  if users.isEmpty && groups.isEmpty then
    exitWith "Atleast single user/group should be given"
  let _ <- serverSettings
  let name <- match (textValue? values "name").filter (!·.isEmpty) with
    | some n => pure n
    | none => pure ("nuCalmAcp-" ++ (<- Build.freshId))
  let outcome <- accessPolicies.list (dictOf [("filter", .str ("name==" ++ name))])
  if outcome.error.isSome then return
  let existing <- getOr (<- outcome.json) "entities" .none
  if existing.truthy then exitWith ("ACP " ++ name ++ " already exists.")
  let projectName := textValue values "project"
  let project <- projectUuidAmongAll projectName fun n => "Project '" ++ n ++ "' not found"
  logInfo ("Fetching project '" ++ projectName ++ "' details")
  let record <- recordToChange project
  let resources <- getOr (<- path! record ["spec", "project_detail"]) "resources" (.str "")
  requireRegistered "Users" users (<- referenceNames resources "user_reference_list") "project"
  requireRegistered "Groups" groups
    (<- referenceNames resources "external_user_group_reference_list") "project"
  let role := textValue values "role"
  let roleRow := (<- get).cache.roles.find? (·.name == role)
  let some roleRow := roleRow
    | throw (.wrongType "'NoneType' object is not subscriptable")
  let .ok sameRole <- projectPolicies project (some (.str roleRow.uuid)) none 1000 | return
  if <- compareValues .gt (<- path! sameRole ["metadata", "total_matches"]) (.int 0) then
    let first <- subscript existing (.int 0)
    exitWith ("ACP " ++ (<- path! first ["status", "name"]).toText ++
      " already exists for given role in project")
  let mut subnets : List Value := []
  for s in <- iterate (<- getOr resources "subnet_reference_list" (.list [])) do
    subnets := subnets ++ [<- at! s "uuid"]
  for s in <- iterate (<- getOr resources "external_network_list" (.list [])) do
    subnets := subnets ++ [<- at! s "uuid"]
  let mut clusters : List Value := []
  for s in subnets do
    let some row := (<- get).cache.subnetById? s.toText
      | throw (.wrongType "'NoneType' object is not subscriptable")
    clusters := clusters ++ [.str row.clusterUuid]
  let userRefs <- userReferences users (<- directoryUsers.nameUuidMap (dictOf [("length", .int 1000)]))
  let groupRefs <- groupReferences groups
    (<- groupNameUuidMap userGroups (dictOf [("length", .int 1000)]))
  let policy := dictOf [
    ("acp", dictOf [("name", .str name), ("resources", dictOf [
      ("role_reference", dictOf [("kind", .str "role"), ("name", .str role),
        ("uuid", .str roleRow.uuid)]),
      ("user_reference_list", .list userRefs), ("user_group_reference_list", .list groupRefs),
      ("filter_list", dictOf [("context_list", .list (policyContexts role project clusters))])])]),
    ("metadata", dictOf [("kind", .str "access_control_policy")]),
    ("operation", .str "ADD")]
  let record <- markPolicies record fun _ => pure "UPDATE"
  let spec <- at! record "spec"
  let policies <- iterate (<- at! spec "access_control_policy_list")
  let record <- setKey record "spec"
    (<- setKey spec "access_control_policy_list" (.list (policies ++ [policy])))
  logInfo ("Creating acp " ++ name)
  applyPolicyChange project record name "creation"

def deleteAcp (values : ParamValues) : Build Unit := do
  let _ <- serverSettings
  let name := textValue values "acp_name"
  let projectName := textValue values "project"
  let project <- projectUuidAmongAll projectName fun n => "Project '" ++ n ++ "' not found."
  logInfo ("Fetching project '" ++ projectName ++ "' details")
  let record <- recordToChange project
  let mut present := false
  for policy in <- iterate (<- getOr (<- at! record "spec") "access_control_policy_list" (.list [])) do
    if (<- path! policy ["acp", "name"]).equal (.str name) then present := true
  let record <- markPolicies record fun policy => do
    pure (if (<- path! policy ["acp", "name"]).equal (.str name) then "DELETE" else "UPDATE")
  if !present then
    exitWith ("ACP(" ++ name ++ ") is not associated with project(" ++ projectName ++ ")")
  logInfo ("Deleting acp '" ++ name ++ "' associated with project '" ++ projectName ++ "'")
  applyPolicyChange project record name "deletion"

/-- The users and groups that a change of a policy adds and removes. -/
structure MemberChange where
  addUsers : List String
  addGroups : List String
  removeUsers : List String
  removeGroups : List String

/-- A policy with its members changed: those removed must be members, and those added get the
    uuids that the server lists for them. -/
def changeMembers (policy : Value) (change : MemberChange) : Build Value := do
  let acp <- at! policy "acp"
  let resources <- at! acp "resources"
  requireRegistered "Users" change.removeUsers
    (<- referenceNames resources "user_reference_list") "acp"
  requireRegistered "Groups" change.removeGroups
    (<- referenceNames resources "user_group_reference_list") "acp"
  let mut users : List Value := []
  for u in <- iterate (<- getOr resources "user_reference_list" (.list [])) do
    if !change.removeUsers.contains (<- at! u "name").toText then users := users ++ [u]
  let mut groups : List Value := []
  for g in <- iterate (<- getOr resources "user_group_reference_list" (.list [])) do
    if !change.removeGroups.contains (<- at! g "name").toText then groups := groups ++ [g]
  users := users ++
    (<- userReferences change.addUsers (<- directoryUsers.nameUuidMap (dictOf [("length", .int 1000)])))
  groups := groups ++ (<- groupReferences change.addGroups
    (<- groupNameUuidMap userGroups (dictOf [("length", .int 1000)])))
  let resources <- setKey resources "user_reference_list" (.list users)
  let resources <- setKey resources "user_group_reference_list" (.list groups)
  setKey policy "acp" (<- setKey acp "resources" resources)

def updateAcp (values : ParamValues) : Build Unit := do
  let change : MemberChange :=
    { addUsers := textsValue values "add_user_list",
      addGroups := textsValue values "add_group_list",
      removeUsers := textsValue values "remove_user_list",
      removeGroups := textsValue values "remove_group_list" }
  if change.addUsers.isEmpty && change.addGroups.isEmpty && change.removeUsers.isEmpty &&
      change.removeGroups.isEmpty then
    exitWith "Atleast single user/group should be given for add/remove operations"
  let _ <- serverSettings
  let name := textValue values "acp_name"
  let projectName := textValue values "project"
  let project <- projectUuidAmongAll projectName fun n => "Project '" ++ n ++ "' not found"
  logInfo ("Fetching project '" ++ projectName ++ "' details")
  let record <- recordToChange project
  let resources <- path! record ["spec", "project_detail", "resources"]
  let projectUsers <- referenceNames resources "user_reference_list"
  let projectGroups <- referenceNames resources "external_user_group_reference_list"
  requireRegistered "Users" change.addUsers projectUsers "project"
  requireRegistered "Groups" change.addGroups projectGroups "project"
  let users := sharedWith change.addUsers change.removeUsers
  if !users.isEmpty then
    exitWith ("Users " ++ textSet users ++ " are both in add_user and remove_user")
  let groups := sharedWith change.addGroups change.removeGroups
  if !groups.isEmpty then
    exitWith ("Groups " ++ textSet groups ++ " are present both in add_groups and " ++
      "remove_groups")
  let spec <- at! record "spec"
  let mut present := false
  let mut policies : List Value := []
  for policy in <- iterate (<- getOr spec "access_control_policy_list" (.list [])) do
    let policy <- setKey policy "operation" (.str "UPDATE")
    if (<- path! policy ["acp", "name"]).equal (.str name) then
      present := true
      policies := policies ++ [<- changeMembers policy change]
    else policies := policies ++ [policy]
  if !present then
    exitWith ("No ACP with name '" ++ name ++ "' exists in project '" ++ projectName ++ "'")
  let record <- if (<- getOr spec "access_control_policy_list" .none).isNone then pure record
    else setKey record "spec" (<- setKey spec "access_control_policy_list" (.list policies))
  logInfo ("Updating acp '" ++ name ++ "' associated with project '" ++ projectName ++ "'")
  applyPolicyChange project record name "updation"

end Blueprints.Cli
