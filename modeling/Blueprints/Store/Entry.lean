import Blueprints.Store.Sync
import Blueprints.Api.Providers

namespace Blueprints.CacheSync

open Api Http Library Build

/-- A table of the cache is taken for a kind of entity only when the cache's version has it. -/
def requireTable (t : CacheTable) : Build Unit := do
  if !(CacheTable.available (<- get).version).contains t then
    exitWith ("Unknown entity type (" ++ t.name ++ ") supplied")

/-- The failure of looking up by uuid a row that a table does not hold: the message names the
    table's model, the query and its parameters. -/
def notHeld (model table : String) (columns : List String) (uuid : String) : Fault :=
  let selected := ", ".intercalate (columns.map fun c => "\"t1\".\"" ++ c ++ "\"")
  .system (model ++ "DoesNotExist")
    ("<Model: " ++ model ++ "> instance matching query does not exist:\nSQL: SELECT " ++
      selected ++ " FROM \"" ++ table ++ "\" AS \"t1\" WHERE (\"t1\".\"uuid\" = ?) LIMIT ? " ++
      "OFFSET ?\nParams: " ++ (Value.list [.str uuid, .int 1, .int 0]).repr)

/-- The failure of adding a row whose name and uuid a table already holds. -/
def keyTaken (table : String) : Fault :=
  .system "IntegrityError" ("UNIQUE constraint failed: " ++ table ++ ".name, " ++ table ++ ".uuid")

/-- The failure of adding a row that could not be read. -/
def rowMissing (model : String) : Fault :=
  .wrongType (model ++ ".create_entry() missing 2 required positional arguments: 'name' and 'uuid'")

/-- A list without its first item that satisfies a test. -/
def eraseFirst {α : Type} (p : α -> Bool) (xs : List α) : List α :=
  match xs.span (!p ·) with
  | (before, _ :: after) => before ++ after
  | (before, []) => before

/-- A list of keyed values with the value of a key replaced in its place, or added last. -/
def putKeyed {α : Type} (entries : List (String × α)) (key : String) (x : α) :
    List (String × α) :=
  if entries.any (·.1 == key) then entries.map fun (k, y) => if k == key then (k, x) else (k, y)
  else entries ++ [(key, x)]

/-- The subnets among those of a filter that the Nutanix object of the server's version lists
    for a PC account. -/
def filteredSubnets (account : Value) (filter : String) : Build Value := do
  match <- invokeProvider "AHV_VM" "subnets" []
      [("account_uuid", account), ("filter_query", .str filter)] with
  | .value v => pure v
  | .outcome o => o.jsonOrRaise

/-- The subnets of a PC account among those of a filter, or `none` when listing them fails. -/
def filteredSubnets? (account : Value) (filter : String) : Build (Option Value) :=
  try
    pure (some (<- filteredSubnets account filter))
  catch f =>
    if f.catchable then pure none else throw f

/-- The row of a project read afresh from the server, or `none` after logging why the project
    cannot be read. Accounts that the server no longer has are left out. -/
def projectRow (uuid : String) : Build (Option ProjectRow) := do
  let types <- accountTypes
  let outcome <- (api "projects").read (.str uuid)
  if let some err := outcome.error then
    logError (<- errorText err)
    return none
  let project <- outcome.json
  let name := (<- path! project ["spec", "name"]).toText
  let resources <- path! project ["spec", "resources"]
  let accountRefs <- iterate (entryAt resources "account_reference_list" (.list []))
  let subnetRefs := (<- iterate (entryAt resources "external_network_list" (.list []))) ++
    (<- iterate (entryAt resources "subnet_reference_list" (.list [])))
  let subnetUuids <- subnetRefs.mapM fun ref => do pure (<- at! ref "uuid").toText
  let filter := "_entity_id_==" ++ "|".intercalate subnetUuids
  let mut accounts : List (String × List String) := []
  let mut allowed : List (String × List String) := []
  for ref in accountRefs do
    let account := (<- at! ref "uuid").toText
    let some (_, kind) := types.find? (·.1 == account) | continue
    accounts := pushUnder accounts kind account
    if kind == "nutanix_pc" then
      match <- filteredSubnets? (.str account) filter with
      | none =>
        logWarning ("Unable to fetch subnets for Nutanix_PC Account(uuid=" ++ account ++ ")")
      | some found =>
        let rows <- iterate (<- at! found "entities")
        let uuids <- rows.mapM fun row => do pure (<- path! row ["metadata", "uuid"]).toText
        allowed := putKeyed allowed account uuids
  pure (some { name, uuid, accounts, whitelistedSubnets := allowed })

/-- The row of an environment read afresh from the server, or `none` after logging why the
    environment cannot be read. -/
def environmentRow (uuid : String) : Build (Option EnvironmentRow) := do
  let outcome <- (api "environments").read (.str uuid)
  if let some err := outcome.error then
    logError (<- errorText err)
    return none
  let entity <- outcome.json
  let name := (<- path! entity ["status", "name"]).toText
  let projectUuid := textAt (entryAt (<- at! entity "metadata") "project_reference") "uuid"
  let infra <- iterate (entryAt (<- path! entity ["status", "resources"]) "infra_inclusion_list"
    (.list []))
  let mut accounts : List (String × List EnvironmentAccount) := []
  for item in infra do
    let kind := (<- at! item "type").toText
    let ref <- at! item "account_reference"
    let mut account : EnvironmentAccount :=
      { uuid := (<- at! ref "uuid").toText, name := textAt ref "name" }
    if kind == "nutanix_pc" then
      let subnets <- iterate (entryAt item "subnet_references" (.list []))
      let uuids <- subnets.mapM fun s => do pure (<- at! s "uuid").toText
      account := { account with subnetUuids := some uuids }
    accounts := pushUnder accounts kind account
  pure (some { name, uuid, projectUuid, accounts })

def projectColumns : List String :=
  ["name", "uuid", "accounts_data", "whitelisted_subnets", "last_update_time"]

def environmentColumns : List String :=
  ["name", "uuid", "project_uuid", "accounts_data", "last_update_time"]

/-- Adds the row of a project read afresh from the server. -/
def addProject (uuid : String) : Build Unit := do
  requireTable .project
  let some row <- projectRow uuid | throw (rowMissing "ProjectCache")
  if (<- get).cache.projects.any fun p => p.name == row.name && p.uuid == row.uuid then
    throw (keyTaken "projectcache")
  store fun c => { c with projects := c.projects ++ [row] }

/-- Reads a project afresh and changes the accounts and subnets of its rows. -/
def refreshProject (uuid : String) : Build Unit := do
  requireTable .project
  let some row <- projectRow uuid | throw (.missingKey "'accounts_data'")
  let refreshed (p : ProjectRow) : ProjectRow :=
    if p.uuid == uuid then
      { p with accounts := row.accounts, whitelistedSubnets := row.whitelistedSubnets }
    else p
  store fun c => { c with projects := c.projects.map refreshed }

/-- Deletes the first row of a project's uuid. -/
def deleteProject (uuid : String) : Build Unit := do
  requireTable .project
  if !(<- get).cache.projects.any (·.uuid == uuid) then
    throw (notHeld "ProjectCache" "projectcache" projectColumns uuid)
  store fun c => { c with projects := eraseFirst (·.uuid == uuid) c.projects }

/-- Adds the row of an environment read afresh from the server. -/
def addEnvironment (uuid : String) : Build Unit := do
  requireTable .environment
  let some row <- environmentRow uuid | throw (rowMissing "EnvironmentCache")
  if (<- get).cache.environments.any fun e => e.name == row.name && e.uuid == row.uuid then
    throw (keyTaken "environmentcache")
  store fun c => { c with environments := c.environments ++ [row] }

/-- Reads an environment afresh and changes the accounts and project of its rows. -/
def refreshEnvironment (uuid : String) : Build Unit := do
  requireTable .environment
  let some row <- environmentRow uuid | throw (.missingKey "'accounts_data'")
  let refreshed (e : EnvironmentRow) : EnvironmentRow :=
    if e.uuid == uuid then { e with accounts := row.accounts, projectUuid := row.projectUuid }
    else e
  store fun c => { c with environments := c.environments.map refreshed }

/-- Deletes the first row of an environment's uuid. -/
def deleteEnvironment (uuid : String) : Build Unit := do
  requireTable .environment
  if !(<- get).cache.environments.any (·.uuid == uuid) then
    throw (notHeld "EnvironmentCache" "environmentcache" environmentColumns uuid)
  store fun c => { c with environments := eraseFirst (·.uuid == uuid) c.environments }

end Blueprints.CacheSync
