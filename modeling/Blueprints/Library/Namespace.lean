import Blueprints.Library.Tasks
import Blueprints.Library.Credentials
import Blueprints.Library.Endpoints
import Blueprints.Library.Machines
import Blueprints.Library.Accounts
import Blueprints.Library.Payloads
import Blueprints.Library.Patches
import Blueprints.Library.Brownfield
import Blueprints.Library.Specs
import Blueprints.Library.Modules

namespace Blueprints.Library

/-- The kinds whose root classes the namespace names, by the names it gives them. -/
def rootClasses : List (String × Kind) :=
  [("Variable", .variable), ("Task", .task), ("Port", .port), ("Package", .package),
   ("Substrate", .substrate), ("Deployment", .deployment), ("PODDeployment", .podDeployment),
   ("Profile", .profile), ("Blueprint", .blueprint), ("SimpleDeployment", .simpleDeployment),
   ("SimpleBlueprint", .simpleBlueprint), ("ReadinessProbe", .readinessProbe),
   ("AhvVmResources", .ahvVmResources), ("AhvVm", .ahvVm), ("Metadata", .metadata),
   ("Environment", .environment), ("Project", .project), ("VmProfile", .vmProfile),
   ("VmBlueprint", .vmBlueprint), ("Endpoint", .endpoint), ("Job", .job),
   ("AhvVmRecoveryResources", .ahvRecoveryResources), ("PublishedService", .publishedService),
   ("AhvUpdateConfigAttrs", .configAttrs), ("PatchDataField", .patchDataField),
   ("Runbook", .runbook), ("RunbookService", .runbookService)]

/-- The names of the library that are classes or functions. -/
def builtinNames : List String :=
  ["CalmVariable", "RunbookVariable", "setvar", "Status", "parallel", "branch", "CalmTask",
   "RunbookTask", "ref", "dag", "meta", "parallel_task", "while_loop", "create_call_rb",
   "basic_cred", "secret_cred", "dynamic_cred", "CalmEndpoint", "action", "runbook", "get_runbook_action",
   "runbook_json", "runbook_create", "action_create", "Ref"] ++ Entities.names ++ Machines.names ++
  Accounts.names ++ Payloads.names ++ Protection.names ++
  Patches.names ++ Brownfield.names

/-- The names of the helpers that read files beside a blueprint file. -/
def fileHelperNames : List String := Files.names ++ Specs.names

def statuses : List String := ["SUCCESS", "FAILURE", "DONT_CARE"]

/-- The value a name of the namespace stands for. -/
def globalName? (name : String) : Build (Option Value) := do
  if name == "Service" then return some (.entity (<- baseService))
  match rootClasses.find? (·.1 == name) with
  | some (_, k) => return some (.entity (<- root k))
  | none => pure ()
  if builtinNames.contains name then return some (.builtin [name])
  -- the helpers that read files beside a blueprint file exist only for blueprint files
  if fileHelperNames.contains name && (<- get).strictNames then return some (.builtin [name])
  pure none

/-- A member of a class of the library that is itself the root class of a kind of entities. -/
def classMember? (owner attr : String) : Build (Option Value) := do
  if owner == "Brownfield" && attr == "Deployment" then
    return some (.entity (<- root .brownfieldDeployment))
  pure none

def member? (owner attr : String) : Option Value :=
  if owner == "Status" then
    if statuses.contains attr then some (.status attr) else none
  else ([Variables.member?, Tasks.member?, Endpoints.member?, References.member?,
    Machines.member?, Accounts.member?,
    Protection.member?, Patches.member?, Brownfield.member?, Modules.member?].findSome? (· owner attr)).map
    fun n => .builtin [n]

end Blueprints.Library
