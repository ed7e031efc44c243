import Blueprints.Store.Cache
import Blueprints.Text.Grid
import Blueprints.Text.Version

namespace Blueprints

/-- A table of the local cache. -/
inductive CacheTable where
  | subnet
  | image
  | account
  | project
  | environment
  | user
  | role
  | directoryService
  | userGroup
  | networkFunctionChain
  | protectionPolicy
deriving Repr, Inhabited, BEq, DecidableEq

namespace CacheTable

/-- Every table, in the order the cache lists them. -/
def all : List CacheTable :=
  [.subnet, .image, .account, .project, .environment, .user, .role, .directoryService,
   .userGroup, .networkFunctionChain, .protectionPolicy]

/-- The name of a table, as commands take it. -/
def name : CacheTable -> String
  | .subnet => "ahv_subnet"
  | .image => "ahv_disk_image"
  | .account => "account"
  | .project => "project"
  | .environment => "environment"
  | .user => "user"
  | .role => "role"
  | .directoryService => "directory_service"
  | .userGroup => "user_group"
  | .networkFunctionChain => "ahv_network_function_chain"
  | .protectionPolicy => "app_protection_policy"

def ofName? (n : String) : Option CacheTable := all.find? (·.name == n)

/-- The oldest server version that has the table. -/
def minVersion : CacheTable -> String
  | .protectionPolicy => "3.3.0"
  | _ => "2.7.0"

def available (version : String) : List CacheTable :=
  all.filter fun t => !Text.versionLt version t.minVersion

def updatedAgo : String := "just now"

/-- The table's rows as a text table, or none when it has no rows. -/
def grid (c : Cache) : CacheTable -> Option Text.Grid
  | .subnet =>
    if c.subnets.isEmpty then none
    else some { headers := ["NAME", "UUID", "CLUSTER_NAME", "ACCOUNT_UUID", "LAST UPDATED"],
                rows := c.subnets.map fun s => [s.name, s.uuid, s.cluster, s.accountUuid, updatedAgo] }
  | .image =>
    if c.images.isEmpty then none
    else
      let sorted := c.images.mergeSort fun a b => decide (a.imageType ≤ b.imageType)
      some { headers := ["NAME", "UUID", "IMAGE_TYPE", "ACCOUNT_UUID", "LAST UPDATED"],
             rows := sorted.map fun i => [i.name, i.uuid, i.imageType, i.accountUuid, updatedAgo] }
  | .account =>
    if c.accounts.isEmpty then none
    else some { headers := ["NAME", "PROVIDER_TYPE", "UUID", "STATE", "LAST UPDATED"],
                rows := c.accounts.map fun a => [a.name, a.providerType, a.uuid, a.state, updatedAgo] }
  | .project =>
    if c.projects.isEmpty then none
    else some { headers := ["NAME", "UUID", "LAST UPDATED"],
                rows := c.projects.map fun p => [p.name, p.uuid, updatedAgo] }
  | .environment =>
    if c.environments.isEmpty then none
    else some { headers := ["NAME", "UUID", "PROJECT_UUID", "LAST UPDATED"],
                rows := c.environments.map fun e => [e.name, e.uuid, e.projectUuid, updatedAgo] }
  | .user => principals c.users
  | .userGroup => principals c.userGroups
  | .role => named c.roles
  | .directoryService => named c.directoryServices
  | .networkFunctionChain => named c.networkFunctionChains
  | .protectionPolicy =>
    if c.protectionPolicies.isEmpty then none
    else some {
      headers := ["NAME", "UUID", "RULE NAME", "RULE TYPE", "EXPIRY (DAYS)", "PROJECT",
        "LAST UPDATED"],
      rows := c.protectionPolicies.map fun p =>
        [p.name, p.uuid, p.ruleName, p.ruleType,
         if p.ruleExpiry == 0 then "-" else toString p.ruleExpiry, p.projectName, updatedAgo] }
where
  principals (rows : List PrincipalRow) : Option Text.Grid :=
    if rows.isEmpty then none
    else some { headers := ["NAME", "DISPLAY_NAME", "UUID", "DIRECTORY", "LAST UPDATED"],
                rows := rows.map fun p => [p.name, p.displayName, p.uuid, p.directory, updatedAgo] }
  named (rows : List NamedRow) : Option Text.Grid :=
    if rows.isEmpty then none
    else some { headers := ["NAME", "UUID", "LAST UPDATED"],
                rows := rows.map fun r => [r.name, r.uuid, updatedAgo] }

/-- The text that shows a table, with a line break after it. -/
def display (c : Cache) (t : CacheTable) : String :=
  match t.grid c with
  | some g => g.render ++ "\n"
  | none => "No entry found !!!\n"

def clear (c : Cache) : CacheTable -> Cache
  | .subnet => { c with subnets := [] }
  | .image => { c with images := [] }
  | .account => { c with accounts := [] }
  | .project => { c with projects := [] }
  | .environment => { c with environments := [] }
  | .user => { c with users := [] }
  | .role => { c with roles := [] }
  | .directoryService => { c with directoryServices := [] }
  | .userGroup => { c with userGroups := [] }
  | .networkFunctionChain => { c with networkFunctionChains := [] }
  | .protectionPolicy => { c with protectionPolicies := [] }

end CacheTable

end Blueprints
