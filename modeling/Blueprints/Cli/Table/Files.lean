import Blueprints.Cli.Command

namespace Blueprints.Cli
open Cli.Param

def compileBpCommand : Node :=
  .plain "bp" "Compiles a DSL (Python) blueprint into JSON or YAML"
    [fileParam "bp_file" "Path of Blueprint file to upload",
    { option ["--brownfield_deployments", "-b"] "brownfield_deployment_file" "Path of Brownfield Deployment file" with
      type := .path true true false },
    outParam "json" "yaml" "output format"]

def compileEndpointCommand : Node :=
  .command "endpoint" "Compiles a DSL (Python) endpoint into JSON or YAML"
    [fileParam "endpoint_file" "Path of Endpoint file to upload",
    outParam "json" "yaml" "output format [json|yaml]."]
    "3.0.0" true

def compileEnvironmentCommand : Node :=
  .plain "environment" "Compiles a DSL (Python) environment into JSON or YAML"
    [fileParam "env_file" "Path of Environment file",
    { option ["--project", "-p"] "project_name" "Project name" with
      required := true },
    outParam "json" "yaml" "output format"]

def compileProjectCommand : Node :=
  .plain "project" "Compiles a DSL (Python) project into JSON or YAML"
    [fileParam "project_file" "Path of Project file",
    outParam "json" "yaml" "output format"]

def compileRunbookCommand : Node :=
  .command "runbook" "Compiles a DSL (Python) runbook into JSON or YAML"
    [fileParam "runbook_file" "Path of Runbook file to upload",
    outParam "json" "yaml" "output format [json|yaml]."]
    "3.0.0" true

def compileGroup : Node :=
  .members "compile" "Compile blueprint to json / yaml"
    [compileBpCommand, compileEndpointCommand, compileEnvironmentCommand, compileProjectCommand, compileRunbookCommand]

def completionInstallCommand : Node :=
  .plain "install" "Install the click-completion-command completion"
    [{ option ["--append"] "append" "Append the completion code to the file" with
      offNames := ["--overwrite"],
      flag := true },
    { option ["-i", "--case-insensitive"] "case_insensitive" "Case insensitive completion" with
      offNames := ["--no-case-insensitive"],
      flag := true },
    { argument "shell" with
      required := false,
      type := .choice ["bash", "fish", "zsh", "powershell"] },
    { argument "path" with
      required := false }]

def completionShowCommand : Node :=
  .plain "show" "Show the click-completion-command completion code"
    [{ option ["-i", "--case-insensitive"] "case_insensitive" "Case insensitive completion" with
      offNames := ["--no-case-insensitive"],
      flag := true },
    { argument "shell" with
      required := false,
      type := .choice ["bash", "fish", "zsh", "powershell"] }]

def completionGroup : Node :=
  .members "completion" "Shell completion for click-completion-command\nAvailable shell types:\n\x08\n  \x7b'call': \"'\\\\n  '.join\"\x7d\nDefault type: auto"
    [completionInstallCommand, completionShowCommand]

def decompileBpCommand : Node :=
  .command "bp" "Decompiles blueprint present on server or json file"
    [{ argument "name" with
      required := false },
    fileParam "bp_file" "Path to Blueprint file" false,
    .switch ["--with_secrets", "-w"] "with_secrets" "Interactive Mode to provide the value for secrets",
    { option ["--prefix", "-p"] "prefix" "Prefix used for appending to entities name(Reserved name cases)" with
      default := .value (.str "") },
    .option ["--dir", "-d"] "bp_dir" "Blueprint directory location used for placing decompiled entities"]
    "" true

def decompileMarketplaceBpCommand : Node :=
  .command "bp" "Decompiles marketplace manager blueprint\n\n\n\x08\nSample command examples:\ni.) calm decompile marketplace bp \"Jenkins\" : Command will decompile marketplace blueprint \"Jenkins\" having latest version\nii.) calm decompile marketplace bp \"Jenkins\" --version \"1.0.0\": Command will decompile marketplace blueprint \"Jenkins\" having \"1.0.0\" version\niii.) calm decompile marketplace bp \"Jenkins\" --name \"DSL_JENKINS_BLUEPRINT\": Command will decompile marketplace bp \"Jenkins\" to DSL blueprint having name \"DSL_JENKINS_BLUEPRINT\" (see the name of blueprint class in decompiled blueprint.py file)"
    [.argument "mpi_name",
    nameParam "Name of blueprint",
    itemVersionParam false "Version of marketplace blueprint",
    .option ["--project", "-p"] "project" "Project for the blueprint",
    sourceParam "App Source of marketplace blueprint",
    .switch ["--with_secrets", "-w"] "with_secrets" "Interactive Mode to provide the value for secrets",
    .option ["--dir", "-d"] "bp_dir" "Blueprint directory location used for placing decompiled entities"]
    "" true

def decompileMarketplaceGroup : Node :=
  .members "marketplace" "Decompile marketplace entities"
    [decompileMarketplaceBpCommand]

def decompileGroup : Node :=
  .members "decompile" ""
    [decompileBpCommand, decompileMarketplaceGroup]

def formatBpCommand : Node :=
  .plain "bp" "Formats blueprint file using black"
    [fileParam "bp_file" "Path of Blueprint file to format"]

def formatEndpointCommand : Node :=
  .command "endpoint" "black formats the endpoint file"
    [fileParam "endpoint_file" "Path of Endpoint file to format"]
    "3.0.0" true

def formatRunbookCommand : Node :=
  .command "runbook" "black formats the runbook file"
    [fileParam "runbook_file" "Path of Runbook file to format"]
    "3.0.0" true

def formatGroup : Node :=
  .members "format" "Format blueprint using black"
    [formatBpCommand, formatEndpointCommand, formatRunbookCommand]

def initBpCommand : Node :=
  .plain "bp" "Creates a starting directory for blueprint"
    [{ option ["--name", "-n"] "bp_name" "Name of blueprint" with
      default := .value (.str "Hello") },
    { option ["--dir_name", "-d"] "dir_name" "Directory path for the blueprint" with
      default := .workingDir },
    { option ["--type", "-t"] "provider_type" "Provider type" with
      type := .choice ["AHV_VM", "AWS_VM", "AZURE_VM", "EXISTING_VM", "GCP_VM", "K8S_POD", "VMWARE_VM"],
      default := .value (.str "AHV_VM") },
    { option ["--bp_type", "-b"] "blueprint_type" "Blueprint type" with
      type := .choice ["SINGLE_VM", "MULTI_VM"],
      default := .value (.str "MULTI_VM") }]

def initDslCommand : Node :=
  .plain "dsl" "\x08\nInitializes the calm dsl engine.\n\nNOTE: Env variables(if available) will be used as defaults for configuration\n    i.) CALM_DSL_PC_IP: Prism Central IP\n    ii.) CALM_DSL_PC_PORT: Prism Central Port\n    iii.) CALM_DSL_PC_USERNAME: Prism Central username\n    iv.) CALM_DSL_PC_PASSWORD: Prism Central password\n    v.) CALM_DSL_DEFAULT_PROJECT: Default project name\n    vi.) CALM_DSL_CONFIG_FILE_LOCATION: Default config file location where dsl config will be stored\n    vii.) CALM_DSL_LOCAL_DIR_LOCATION: Default local directory location to store secrets\n    viii.) CALM_DSL_DB_LOCATION: Default internal dsl db location"
    [{ option ["--ip", "-i"] "ip" "Prism Central server IP or hostname" with
      envvar := some "CALM_DSL_PC_IP" },
    { option ["--port", "-P"] "port" "Prism Central server port number" with
      envvar := some "CALM_DSL_PC_PORT" },
    { option ["--username", "-u"] "username" "Prism Central username" with
      envvar := some "CALM_DSL_PC_USERNAME" },
    { option ["--password", "-p"] "password" "Prism Central password" with
      envvar := some "CALM_DSL_PC_PASSWORD" },
    { option ["--db_file", "-d"] "db_file" "Path to local database file" with
      envvar := some "CALM_DSL_DB_LOCATION",
      type := .path true true false },
    { option ["--local_dir", "-ld"] "local_dir" "Path to local directory for storing secrets" with
      envvar := some "CALM_DSL_LOCAL_DIR_LOCATION",
      type := .path true false true },
    { option ["--config", "-cf"] "config_file" "Path to config file to store dsl configuration" with
      envvar := some "CALM_DSL_CONFIG_FILE_LOCATION",
      type := .path true true false },
    { option ["--project", "-pj"] "project_name" "Default project name used for entities" with
      envvar := some "CALM_DSL_DEFAULT_PROJECT" }]

def initRunbookCommand : Node :=
  .command "runbook" "Creates a starting directory for runbook"
    [{ option ["--name", "-n"] "runbook_name" "Name of runbook" with
      default := .value (.str "Hello") },
    { option ["--dir_name", "-d"] "dir_name" "Directory path for the runbook" with
      default := .workingDir }]
    "3.0.0" true

def initGroup : Node :=
  .members "init" "Initializes the dsl for basic configs and bp directory etc."
    [initBpCommand, initDslCommand, initRunbookCommand]

def promptCommand : Node :=
  .plain "prompt" "Enable an interactive prompt shell\n\n> :help\n\nREPL help:\n\nExternal Commands:\n\n  prefix external commands with \"!\"\n\nInternal Commands:\n\n  prefix internal commands with \":\"\n\n  :exit, :q, :quit  exits the repl\n\n  :?, :h, :help     displays general help information"
    []

def validateProviderSpecCommand : Node :=
  .plain "provider_spec" "validates provider spec for given provider"
    [fileParam "spec_file" "Path of provider spec file",
    { option ["--type", "-t"] "provider_type" "Provider type" with
      type := .choice ["AHV_VM", "AWS_VM", "AZURE_VM", "EXISTING_VM", "GCP_VM", "K8S_POD", "VMWARE_VM"],
      default := .value (.str "AHV_VM") }]

def validateGroup : Node :=
  .members "validate" "Validate provider specs"
    [validateProviderSpecCommand]

end Blueprints.Cli
