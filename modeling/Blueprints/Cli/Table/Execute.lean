import Blueprints.Cli.Command

namespace Blueprints.Cli

def abortRunbookExecutionCommand : Node :=
  .command "runbook_execution" "Abort the runbook execution"
    [.argument "runlog_uuid"]
    "3.0.0" true

def abortGroup : Node :=
  .members "abort" "Abort runbook executions"
    [abortRunbookExecutionCommand]

/-- The part of the help of launching a blueprint that shows how launch parameters give the
    values of variables, substrates, deployments and credentials. -/
def launchVariablesHelp : String :=
  "value defined in the blueprint. When passing a Python file, no variables will be prompted.\n\n\x08\nNote: Dynamic variables will not have a default value. User have to select an option during launch.\n\n\x08\n>: launch_params: Python file consisting of variables 'variable_list' and 'substrate_list'\nEx: variable_list = [\n        \x7b\n            \"value\": \x7b\"value\": <Variable Value>\x7d,\n            \"context\": <Context for variable>\n            \"name\": \"<Variable Name>\"\n        \x7d\n    ]\n    substrate_list = [\n        \x7b\n            \"value\":  \x7b\n                <substrate_editable_data_object>\n            \x7d,\n            \"name\": <Substrate Name>,\n        \x7d\n    ]\n    deployment_list = [\n        \x7b\n            \"value\":  \x7b\n                <deployment_editable_data_object>\n            \x7d,\n            \"name\": <Deployment Name>,\n        \x7d\n    ]\n    credential_list = [\n        \x7b\n            \"value\":  \x7b\n                <credential_editable_data_object>\n            \x7d,\n            \"name\": <Credential Name>,\n        \x7d\n    ]\n"

/-- The help of launching a marketplace blueprint after its first line. -/
def marketplaceLaunchHelp : String :=
  "\nAll runtime variables will be prompted by default. When passing the 'ignore_runtime_variables' flag, no variables will be prompted and all default values will be used.\nThe marketplace-blueprint default values can be overridden by passing a Python file via 'launch_params'. Any variable not defined in the Python file will keep the default\n" ++ launchVariablesHelp ++
    "Sample context for variables:\n    1. context = \"<Profile Name>\"    # For variable under profile\n    2. context = \"<Service Name>\"    # For variable under service"

def launchBpCommand : Node :=
  .plain "bp" ("Launches a blueprint.\nAll runtime variables will be prompted by default. When passing the 'ignore_runtime_variables' flag, no variables will be prompted and all default values will be used.\nThe blueprint default values can be overridden by passing a Python file via 'launch_params'. Any variable not defined in the Python file will keep the default " ++ launchVariablesHelp ++
    "    snapshot_config_list = [\n        \x7b\n            \"value\":  \x7b\n                \"attrs_list\": [\n                    <attrs_list_editables>\n                ]\n            \x7d,\n            \"name\": <Snapshot Config Name>,\n        \x7d\n    ]\nSample context for variables:\n    1. context = \"<Profile Name>\"    # For variable under profile\n    2. context = \"<Service Name>\"    # For variable under service\n\n\x08\n>: brownfield_deployments: Python file containing brownfield deployments")
    [.argument "blueprint_name",
    .switch ["--with_secrets", "-ws"] "with_secrets" "Preserve secrets while launching the blueprint",
    .option ["--environment", "-e"] "environment" "Environment for the application",
    .option ["--app_name", "-a"] "app_name" "Name of your app",
    .option ["--profile_name", "-p"] "profile_name" "Name of app profile to be used for blueprint launch",
    .switch ["--ignore_runtime_variables", "-i"] "ignore_runtime_variables" "Ignore runtime variables and use defaults",
    { Param.option ["--launch_params", "-l"] "launch_params" "Path to python file for runtime editables" with
      type := .path true true false },
    watchParam,
    { Param.option ["--poll-interval", "-pi"] "poll_interval" "Give polling interval" with
      showDefault := true,
      type := .int,
      default := .value (.int 10) },
    { Param.option ["--brownfield_deployments", "-b"] "brownfield_deployment_file" "Path of Brownfield Deployment file (Added in 3.3)" with
      type := .versioned "3.3.0" }]

/-- The parameters of launching a marketplace blueprint, whose app name has the help
    `appNameHelp`. -/
def marketplaceLaunchParams (appNameHelp : String) : List Param :=
    [.argument "name",
    itemVersionParam false "Version of marketplace blueprint",
    .option ["--project", "-pj"] "project" "Project for the application",
    .option ["--environment", "-e"] "environment" "Environment for the application",
    .option ["--app_name", "-a"] "app_name" appNameHelp,
    .option ["--profile_name", "-p"] "profile_name" "Name of app profile to be used for blueprint launch",
    .switch ["--ignore_runtime_variables", "-i"] "ignore_runtime_variables" "Ignore runtime variables and use defaults for blueprint launch",
    sourceParam "App Source of marketplace blueprint",
    watchParam,
    { Param.option ["--poll-interval", "-pi"] "poll_interval" "Give polling interval" with
      showDefault := true,
      type := .int,
      default := .value (.int 10) },
    { Param.option ["--launch_params", "-l"] "launch_params" "Path to python file for runtime editables" with
      type := .path true true false }]

def launchMarketplaceBpCommand : Node :=
  .plain "bp" ("Launch a marketplace manager blueprint" ++ marketplaceLaunchHelp)
    (marketplaceLaunchParams "Name of your app")

def launchMarketplaceItemCommand : Node :=
  .plain "item" ("Launch a marketplace store item of type blueprint" ++ marketplaceLaunchHelp)
    (marketplaceLaunchParams "Name of app")

def launchMarketplaceGroup : Node :=
  .members "marketplace" "Launch marketplace entities"
    [launchMarketplaceBpCommand, launchMarketplaceItemCommand]

def launchGroup : Node :=
  .members "launch" "Launch blueprints to create Apps"
    [launchBpCommand, launchMarketplaceGroup]

def pauseRunbookExecutionCommand : Node :=
  .command "runbook_execution" "Pause the running runbook execution"
    [.argument "runlog_uuid"]
    "3.0.0" true

def pauseGroup : Node :=
  .members "pause" "Pause running runbook executions"
    [pauseRunbookExecutionCommand]

def restartAppCommand : Node :=
  .plain "app" "Restarts an application"
    [.argument "app_name",
    watchParam]

def restartGroup : Node :=
  .members "restart" "Restart entities"
    [restartAppCommand]

def resumeRunbookExecutionCommand : Node :=
  .command "runbook_execution" "Resume the paused runbook execution"
    [.argument "runlog_uuid"]
    "3.0.0" true

def resumeGroup : Node :=
  .members "resume" "resume paused runbook executions"
    [resumeRunbookExecutionCommand]

def runActionCommand : Node :=
  .plain "action" "App lcm actions.\nAll runtime variables will be prompted by default. When passing the 'ignore_runtime_editable' flag, no variables will be prompted and all default values will be used.\nThe action default values can be overridden by passing a Python file via 'launch_params'. Any variable not defined in the Python file will keep the default value defined in the blueprint. When passing a Python file, no variables will be prompted.\n\n\x08\n>: runtime_params: Python file consisting of variables 'variable_list'\nEx: variable_list = [\n        \x7b\n            \"value\": \x7b\"value\": <Variable Value>\x7d,\n            \"name\": \"<Variable Name>\"\n        \x7d\n    ]"
    [.argument "action_name",
    { Param.option ["--app", "-a"] "app_name" "Watch action run in an app" with
      required := true },
    .switch ["--ignore_runtime_variables", "-i"] "ignore_runtime_variables" "Ignore runtime variables and use defaults",
    { Param.option ["--runtime_params", "-r"] "runtime_params_file" "Path to python file for runtime editables" with
      type := .path true true false },
    watchParam]

/-- The parameters of running a marketplace runbook. -/
def marketplaceRunParams : List Param :=
    [.argument "name",
    itemVersionParam false "Version of marketplace item",
    .option ["--project", "-pj"] "project" "Project for the execution",
    .switch ["--ignore_runtime_variables", "-i"] "ignore_runtime_variables" "Ignore runtime variables and use defaults for runbook execution",
    sourceParam "App Source of marketplace item",
    watchParam]

def runMarketplaceItemCommand : Node :=
  .command "item" "Execute a marketplace item of type runbook" marketplaceRunParams "3.2.0" false

def runMarketplaceRunbookCommand : Node :=
  .command "runbook" "Execute a marketplace item of type runbook" marketplaceRunParams "3.2.0" false

def runMarketplaceGroup : Node :=
  .members "marketplace" "Run marketplace entities"
    [runMarketplaceItemCommand, runMarketplaceRunbookCommand]

def runRunbookCommand : Node :=
  .command "runbook" "Execute the runbook given by name or runbook file. All runtime variables and default target will be prompted by default. When passing the 'ignore_runtime_variables' flag, no variables will be prompted and all default values will be used. The runbook  default values can be  overridden by passing a Python file via 'input_file'. When passing a Python file, no variables will be prompted.\n\n\x08\n>: Runbook will be deleted after single run, if '--file/-f' option is used to supply runbook file.\n\n>: input_file: Python file consisting of variables 'variable_list' and 'default_target'\nEx: variable_list = \x7b\n    \"value\": \x7b\"value\": <Variable Value>\x7d,\n    \"name\": \"<Variable Name>\"\n\x7d\ndefault_target: <Endpoint Name>"
    [{ Param.argument "runbook_name" with
      required := false },
    fileParam "runbook_file" "Path of Runbook file to directly run runbook" false,
    .switch ["--ignore_runtime_variables", "-i"] "ignore_runtime_variables" "Ignore runtime variables and use defaults",
    { Param.option ["--input-file"] "input_file" "Path to python file for runtime editables" with
      type := .path true true false },
    watchParam]
    "3.0.0" true

def runGroup : Node :=
  .members "run" "Run actions in an app or runbooks"
    [runActionCommand, runMarketplaceGroup, runRunbookCommand]

def startAppCommand : Node :=
  .plain "app" "Starts an application"
    [.argument "app_name",
    watchParam]

def startGroup : Node :=
  .members "start" "Start entities"
    [startAppCommand]

def stopAppCommand : Node :=
  .plain "app" "Stops an application"
    [.argument "app_name",
    watchParam]

def stopGroup : Node :=
  .members "stop" "Stop entities"
    [stopAppCommand]

end Blueprints.Cli
