import Blueprints.Cli.Marketplace.Publish
import Blueprints.Cli.Marketplace.Use
import Blueprints.Cli.Machines
import Blueprints.Cli.AccessPolicies
import Blueprints.Cli.Accounts
import Blueprints.Cli.Endpoints
import Blueprints.Cli.Environments
import Blueprints.Cli.Catalog
import Blueprints.Starter.Project

namespace Blueprints.Cli
open Build Text

/-- The newest server version that the program was checked against. -/
def verifiedVersion : String := "2.9.7"

def rootAction (values : ParamValues) : Build Unit := do
  let version := (<- get).version
  if version.isEmpty then logWarning "Version not found. Please update cache."
  else if versionLt version verifiedVersion then
    logWarning ("Calm server version (" ++ version ++ ") is less than verified version. (" ++
      verifiedVersion ++ ").")
  if let some file := (textValue? values "config_file").filter (!·.isEmpty) then
    applySettingsFile file
  if flagValue values "sync" then syncCache

def startBlueprintProject (values : ParamValues) : Build Unit := do
  let name := textValue values "bp_name"
  if !isIdentifier name then
    exitWith ("Blueprint name '" ++ name ++ "' is not a valid identifier")
  Starter.writeBlueprintProject (textValue values "dir_name") name
    (textValue values "provider_type") (textValue values "blueprint_type")

def startRunbookProject (values : ParamValues) : Build Unit := do
  let name := textValue values "runbook_name"
  if !isIdentifier name then
    exitWith ("Runbook name '" ++ name ++ "' is not a valid identifier")
  Starter.writeRunbookProject (textValue values "dir_name") name

/-- `validate provider_spec`: a YAML file checked against the schema of a provider's
    specifications. -/
def validateSpecFile (values : ParamValues) : Build Unit := do
  let file := textValue values "spec_file"
  let providerType := textValue values "provider_type"
  let text <- Library.Files.readAt (absolutePath file)
    (.system "FileNotFoundError" ("[Errno 2] No such file or directory: " ++ quoted file))
  let spec <- match Yaml.load text with
    | .ok v => pure v
    | .error m => throw (.system "YAMLError" m)
  let outcome := match Provider.ofName? providerType with
    | some p => p.validateSpec spec
    | none => .error "provider not registered"
  match outcome with
  | .ok _ => logInfo ("File " ++ file ++ " is a valid " ++ providerType ++ " spec.")
  | .error m =>
    logInfo ("File " ++ file ++ " is invalid " ++ providerType ++ " spec")
    throw (.failure m)

/-- The name of the variable that asks the program for completions. -/
def completionVariable : String := "_" ++ programName.toUpper ++ "_COMPLETE"

/-- The code that makes a shell complete the program's words; case-insensitive completion is
    asked for with a variable of the environment. -/
def completionCode (shell : String) (caseInsensitive : Bool) : Build String := do
  let extra := if caseInsensitive then " _CLICK_COMPLETION_COMMAND_CASE_INSENSITIVE_COMPLETE=ON"
    else ""
  match shell with
  | "bash" => pure ("\n".intercalate [
      "_" ++ programName ++ "_completion() \x7b",
      "    local IFS=$'\\t'",
      "    COMPREPLY=( $( env COMP_WORDS=\"$\x7bCOMP_WORDS[*]\x7d\" \\",
      "                   COMP_CWORD=$COMP_CWORD \\",
      "                   " ++ completionVariable ++ "=complete-bash" ++ extra ++ " $1 ) )",
      "    return 0",
      "\x7d",
      "",
      "complete -F _" ++ programName ++ "_completion -o default " ++ programName])
  | "fish" => pure ("complete --command " ++ programName ++ " --arguments \"(env " ++
      completionVariable ++ "=complete-fish COMMANDLINE=(commandline -cp)" ++ extra ++ " " ++
      programName ++ ")\" -f")
  | "zsh" => pure ("\n".intercalate [
      "#compdef " ++ programName,
      "_" ++ programName ++ "() \x7b",
      "  eval $(env COMMANDLINE=\"$\x7bwords[1,$CURRENT]\x7d\" " ++ completionVariable ++
        "=complete-zsh " ++ extra ++ " " ++ programName ++ ")",
      "\x7d",
      "if [[ \"$(basename -- $\x7b(%):-%x\x7d)\" != \"_" ++ programName ++ "\" ]]; then",
      "  compdef _" ++ programName ++ " " ++ programName,
      "fi"])
  | s => throw (.unsupported ("completion code for the shell " ++ s))

def showCompletion (values : ParamValues) : Build Unit := do
  let code <- completionCode (textValue values "shell") (flagValue values "case_insensitive")
  print (code ++ "\n")

/-- The action of each command, by its path. -/
def commandAction (r : Runtime) : Action := fun path values =>
  match path with
  | [] => rootAction values
  | ["compile", "bp"] => compileBlueprintFile r values
  | ["compile", "runbook"] => compileRunbookFile r values
  | ["compile", "endpoint"] => compileEndpointFile r values
  | ["compile", "project"] => compileProjectFile r values
  | ["compile", "environment"] => compileEnvironmentFile r values
  | ["update", "cache"] => updateCache values
  | ["show", "cache"] => showCache
  | ["show", "commands"] => showCommands
  | ["decompile", "bp"] => decompileBlueprint r values
  | ["format", "bp"] => formatBlueprintFile values
  | ["format", "runbook"] => formatRunbookFile values
  | ["format", "endpoint"] => formatEndpointFile values
  | ["clear", "cache"] => clearCache
  | ["validate", "provider_spec"] => validateSpecFile values
  | ["completion", "show"] => showCompletion values
  | ["init", "bp"] => startBlueprintProject values
  | ["init", "runbook"] => startRunbookProject values
  | ["init", "dsl"] => initSettings values
  | ["show", "config"] => showSettings
  | ["set", "config"] => setSettings values
  | ["create", "secret"] => createSecret values
  | ["get", "secrets"] => listSecrets values
  | ["delete", "secret"] => deleteSecret values
  | ["update", "secret"] => updateSecret values
  | ["clear", "secrets"] => clearSecrets
  | ["get", "bps"] => listBlueprints values
  | ["get", "apps"] => listApplications values
  | ["get", "runbooks"] => listRunbooks values
  | ["get", "runbook_executions"] => listRunbookExecutions values
  | ["get", "endpoints"] => listEndpoints values
  | ["get", "app_icons"] => listAppIcons values
  | ["get", "projects"] => listProjects values
  | ["get", "environments"] => listEnvironments values
  | ["get", "roles"] => listRoles values
  | ["get", "accounts"] => listAccounts values
  | ["get", "jobs"] => listJobs values
  | ["get", "library", "tasks"] => listLibraryTasks values
  | ["get", "users"] => listUsers values
  | ["get", "groups"] => listGroups values
  | ["get", "directory_services"] => listDirectoryServices values
  | ["get", "server", "status"] => serverStatus
  | ["create", "bp"] => createBlueprintFile r values
  | ["create", "runbook"] => createRunbookFile r values
  | ["watch", "runbook_execution"] => watchRunbookExecution values
  | ["pause", "runbook_execution"] => pauseRunbookExecution values
  | ["resume", "runbook_execution"] => resumeRunbookExecution values
  | ["abort", "runbook_execution"] => abortRunbookExecution values
  | ["run", "runbook"] => runRunbook r values
  | ["describe", "runbook"] => describeRunbook values
  | ["delete", "runbook"] => deleteRunbooks values
  | ["watch", "task"] => watchTask values
  | ["describe", "app"] => describeApp values
  | ["watch", "app"] => watchApp values
  | ["watch", "action_runlog"] => watchActionRunlog values
  | ["download", "action_runlog"] => downloadActionRunlog values
  | ["delete", "app"] => deleteNamedApps values
  | ["run", "action"] => runNamedAction r values
  | ["start", "app"] => runSystemAction r "start" values
  | ["stop", "app"] => runSystemAction r "stop" values
  | ["restart", "app"] => runSystemAction r "restart" values
  | ["create", "app"] => createApp r values
  | ["launch", "bp"] => launchBlueprintCommand r values
  | ["create", "provider_spec"] => createProviderSpec values
  | ["update", "project"] => updateProject r values
  | ["create", "environment"] => createEnvironment r values
  | ["update", "environment"] => updateEnvironment r values
  | ["delete", "environment"] => deleteEnvironment values
  | ["create", "project"] => createProjectFile r values
  | ["describe", "project"] => describeProject values
  | ["delete", "project"] => deleteProjects values
  | ["create", "acp"] => createAcp values
  | ["delete", "group"] => deleteGroups values
  | ["create", "library", "task"] => createLibraryTask r values
  | ["import", "library", "task"] => importLibraryTask values
  | ["describe", "library", "task"] => describeLibraryTask values
  | ["delete", "library", "task"] => deleteLibraryTasks values
  | ["create", "job"] => createJob r values
  | ["get", "marketplace", "items"] => listStoreItems values
  | ["get", "marketplace", "bps"] => listManagerItems "blueprint" values
  | ["get", "marketplace", "runbooks"] => listManagerItems "runbook" values
  | ["describe", "marketplace", "item"] => describeStoreItem values
  | ["describe", "marketplace", "bp"] => describeManagerItem values
  | ["describe", "marketplace", "runbook"] => describeManagerItem values
  | ["describe", "bp"] => describeBlueprint values
  | ["delete", "bp"] => deleteBlueprints values
  | ["approve", "marketplace", "bp"] => approveItemCommand "blueprint" values
  | ["approve", "marketplace", "runbook"] => approveItemCommand "runbook" values
  | ["publish", "marketplace", "bp"] => publishItemCommand "blueprint" values
  | ["publish", "marketplace", "runbook"] => publishItemCommand "runbook" values
  | ["reject", "marketplace", "bp"] => rejectItemCommand "blueprint" values
  | ["reject", "marketplace", "runbook"] => rejectItemCommand "runbook" values
  | ["unpublish", "marketplace", "bp"] => unpublishBlueprintCommand values
  | ["unpublish", "marketplace", "item"] => unpublishItemCommand values
  | ["update", "marketplace", "bp"] => updateItemCommand "blueprint" values
  | ["update", "marketplace", "runbook"] => updateItemCommand "runbook" values
  | ["delete", "marketplace", "bp"] => deleteItemCommand "blueprint" values
  | ["delete", "marketplace", "runbook"] => deleteItemCommand "runbook" values
  | ["launch", "marketplace", "bp"] => launchManagerBlueprint r values
  | ["launch", "marketplace", "item"] => launchStoreBlueprint r values
  | ["decompile", "marketplace", "bp"] => decompileItemBlueprint r values
  | ["run", "marketplace", "runbook"] => runManagerRunbook values
  | ["run", "marketplace", "item"] => runStoreRunbook values
  | ["publish", "bp"] => publishBlueprintToManager values
  | ["publish", "runbook"] => publishRunbookToManager values
  | ["get", "brownfield", "vms"] => listBrownfieldMachines values
  | ["get", "vm-recovery-points"] => listRecoveryPoints values
  | ["get", "protection-policies"] => listProtectionPolicies values
  | ["get", "acps"] => listAccessPolicies values
  | ["describe", "acp"] => describeAccessPolicy values
  | ["update", "acp"] => updateAcp values
  | ["delete", "acp"] => deleteAcp values
  | ["describe", "account"] => describeAccount values
  | ["delete", "account"] => deleteAccounts values
  | ["create", "endpoint"] => createEndpointFile r values
  | ["describe", "endpoint"] => describeEndpoint values
  | ["delete", "endpoint"] => deleteEndpoints values
  | _ => throw (.unsupported ("command " ++ " ".intercalate path))

end Blueprints.Cli
