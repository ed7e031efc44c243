import Blueprints.Cli.Command

namespace Blueprints.Cli
open Cli.Param

def clearCacheCommand : Node :=
  .plain "cache" "Clear the entities stored in cache" []

def clearSecretsCommand : Node :=
  .plain "secrets" "Delete all the secrets stored in the local db" []

def clearGroup : Node :=
  .members "clear" "Clear the data stored in local db: cache, secrets etc."
    [clearCacheCommand, clearSecretsCommand]

def createAcpCommand : Node :=
  .plain "acp" "Creates an acp"
    [{ option ["--role", "-r"] "role" "ACP role" with
      required := true,
      type := .choice ["Project Admin", "Operator", "Consumer", "Developer"] },
    { option ["--project", "-p"] "project" "ACP project name" with
      required := true },
    { option ["--user", "-u"] "users" with
      multiple := true,
      default := .value (.arr []) },
    { option ["--group", "-g"] "groups" with
      multiple := true,
      default := .value (.arr []) },
    .option ["--name", "-name"] "name"]

def createAppCommand : Node :=
  .plain "app" "Creates an application.\n\n\x08\nCommand consumes a dsl blueprint file and creates a blueprint from it.\nIf created blueprint is in ACTIVE state, then it got launched to create an application.\nBlueprint is deleted after launching it."
    [fileParam "bp_file" "Path of Blueprint file to upload",
    { option ["--brownfield_deployments", "-b"] "brownfield_deployment_file" "Path of Brownfield Deployment file" with
      type := .path true true false },
    .option ["--name", "-n"] "app_name" "Application name (Optional)",
    .switch ["--ignore_runtime_variables", "-i"] "ignore_runtime_variables" "Ignore runtime variables and use defaults while launching blueprint",
    { option ["--launch_params", "-l"] "launch_params" "Path to python file for runtime editables" with
      type := .path true true false }]

def createAppIconCommand : Node :=
  .plain "app_icon" "Creates a marketplace app icon"
    [fileParam "file" "Path of Blueprint file to upload",
    nameParam "icon name"]

def createBpCommand : Node :=
  .plain "bp" "Creates a blueprint"
    [fileParam "bp_file" "Path of Blueprint file to upload",
    nameParam "Blueprint name (Optional)",
    .option ["--description", "-d"] "description" "Blueprint description (Optional)",
    .switch ["--force", "-fc"] "force" "Deletes existing blueprint with the same name before create."]

def createEndpointCommand : Node :=
  .command "endpoint" "Creates a endpoint"
    [fileParam "endpoint_file" "Path of Endpoint file to upload",
    nameParam "Endpoint name (Optional)",
    .option ["--description"] "description" "Endpoint description (Optional)",
    .switch ["--force", "-fc"] "force" "Deletes existing blueprint with the same name before create."]
    "3.0.0" true

def createEnvironmentCommand : Node :=
  .command "environment" "Creates a environment to existing project."
    [fileParam "env_file" "Path of environment file to create",
    { option ["--project", "-p"] "project_name" "Project name" with
      required := true },
    .option ["--name", "-n"] "env_name" "Environment name (Optional)",
    noCacheUpdateParam]
    "3.2.0" false

def createGroupCommand : Node :=
  .plain "group" "Creates a user-group"
    [{ option ["--name", "-n"] "name" "Distinguished name of group" with
      required := true }]

def createJobCommand : Node :=
  .command "job" "Creates a job in scheduler"
    [fileParam "job_file" "Path of Job file to upload",
    nameParam "Job name (Optional)",
    .option ["--description"] "description" "Job description (Optional)",
    { option ["--force", "-fc"] "force" with
      flag := true,
      default := .value (.bool false) }]
    "3.0.0" true

def createLibraryTaskCommand : Node :=
  .plain "task" "Create task library item.\n\n(-f | --file) supports:\n\n    .py       - Python DSL\n\n    .json     - Full json payload download from Calm API (v3 #GET) or using `calm describe library task <task_name> -o json `\n\n\nExamples:\n\ncalm create library task --name=HTTPGetVM -f HTTPGetVM.py\n\ncalm create library task -f HTTPGetVM.json"
    [fileParam "task_file" "Path of task file (.py/.json)",
    nameParam "Task Library item name (Optional)",
    .option ["--description", "-d"] "description" "Task Library description (Optional)",
    .switch ["--force", "-fc"] "force" "Updates existing task library item with the same name."]

def createLibraryGroup : Node :=
  .group "library" "Create Library entities"
    []
    "" false
    [createLibraryTaskCommand]

def createProjectCommand : Node :=
  .plain "project" "Creates a project"
    [fileParam "project_file" "Path of Project file to upload",
    { option ["--name", "-n"] "project_name" "Project name(optional)" with
      default := .value (.str "") },
    .option ["--description", "-d"] "description" "Blueprint description (Optional)",
    noCacheUpdateParam]

def createProviderSpecCommand : Node :=
  .plain "provider_spec" "Creates a provider_spec"
    [{ option ["--type", "-t"] "provider_type" "Provider type" with
      type := .choice ["AHV_VM", "AWS_VM", "AZURE_VM", "EXISTING_VM", "GCP_VM", "K8S_POD", "VMWARE_VM"],
      default := .value (.str "AHV_VM") }]

def createRunbookCommand : Node :=
  .command "runbook" "Creates a runbook"
    [fileParam "runbook_file" "Path of Runbook file to upload",
    nameParam "Runbook name (Optional)",
    .option ["--description"] "description" "Runbook description (Optional)",
    .switch ["--force", "-fc"] "force" "Deletes existing blueprint with the same name before create."]
    "3.0.0" true

def createSecretCommand : Node :=
  .plain "secret" "Creates a secret"
    [.argument "name",
    { option ["--value", "-v"] "value" "Value for secret" with
      prompt := some "Value",
      hideInput := true,
      confirm := true }]

def createUserCommand : Node :=
  .plain "user" "Creates a user"
    [{ option ["--name", "-n"] "name" "Principal Name of user" with
      required := true },
    { option ["--directory", "-d"] "directory_service" "Directory Service of user" with
      required := true }]

def createGroup : Node :=
  .members "create" "Create entities in Calm (blueprint, project, endpoint, runbook)"
    [createAcpCommand, createAppCommand, createAppIconCommand, createBpCommand, createEndpointCommand, createEnvironmentCommand, createGroupCommand, createJobCommand, createLibraryGroup, createProjectCommand, createProviderSpecCommand, createRunbookCommand, createSecretCommand, createUserCommand]

def deleteAccountCommand : Node :=
  .plain "account" "Deletes a account from settings"
    [{ argument "account_names" with
      required := false,
      many := true }]

def deleteAcpCommand : Node :=
  .plain "acp" "Deletes an acp"
    [.argument "acp_name",
    { option ["--project", "-p"] "project" "ACP project name" with
      required := true }]

def deleteAppCommand : Node :=
  .plain "app" "Deletes an application"
    [{ argument "app_names" with
      required := false,
      many := true },
    .switch ["--soft", "-s"] "soft" "Soft delete app"]

def deleteAppIconCommand : Node :=
  .plain "app_icon" "Deletes a marketplace app icon"
    [{ argument "icon_names" with
      required := false,
      many := true }]

def deleteBpCommand : Node :=
  .plain "bp" "Deletes a blueprint"
    [{ argument "blueprint_names" with
      required := false,
      many := true }]

def deleteEndpointCommand : Node :=
  .command "endpoint" "Deletes endpoints"
    [{ argument "endpoint_names" with
      required := false,
      many := true }]
    "3.0.0" true

def deleteEnvironmentCommand : Node :=
  .command "environment" "Deletes a environment"
    [.argument "environment_name",
    { option ["--project", "-p"] "project_name" "Project name" with
      required := true },
    noCacheUpdateParam]
    "3.2.0" false

def deleteGroupCommand : Node :=
  .plain "group" "Deletes a group"
    [{ argument "group_names" with
      required := false,
      many := true }]

def deleteJobCommand : Node :=
  .plain "job" "Deletes a job"
    [{ argument "job_names" with
      required := false,
      many := true }]

def deleteLibraryTaskCommand : Node :=
  .plain "task" "Deletes a task from task library"
    [{ argument "task_names" with
      required := false,
      many := true }]

def deleteLibraryGroup : Node :=
  .group "library" "Delete Library entities"
    []
    "" false
    [deleteLibraryTaskCommand]

def deleteMarketplaceBpCommand : Node :=
  .plain "bp" "Deletes marketplace manager blueprint"
    [.argument "name",
    itemVersionParam true "Version of marketplace blueprint",
    sourceParam "App Source of marketplace blueprint",
    { option ["--app_state", "-a"] "app_state" "State of marketplace blueprint" with
      type := .choice ["PENDING", "ACCEPTED", "REJECTED", "PUBLISHED"] }]

def deleteMarketplaceRunbookCommand : Node :=
  .command "runbook" "Deletes marketplace manager runbook"
    [.argument "name",
    itemVersionParam true "Version of marketplace runbook",
    sourceParam "App Source of marketplace runbook",
    { option ["--app_state", "-a"] "app_state" "State of marketplace runbook" with
      type := .choice ["PENDING", "ACCEPTED", "REJECTED", "PUBLISHED"] }]
    "3.2.0" false

def deleteMarketplaceGroup : Node :=
  .members "marketplace" "Delete marketplace entities"
    [deleteMarketplaceBpCommand, deleteMarketplaceRunbookCommand]

def deleteProjectCommand : Node :=
  .plain "project" "Deletes a project"
    [{ argument "project_names" with
      required := false,
      many := true },
    noCacheUpdateParam]

def deleteRunbookCommand : Node :=
  .command "runbook" "Deletes a runbook"
    [{ argument "runbook_names" with
      required := false,
      many := true }]
    "3.0.0" true

def deleteSecretCommand : Node :=
  .plain "secret" "Deletes a secret"
    [.argument "name"]

def deleteUserCommand : Node :=
  .plain "user" "Deletes a user"
    [{ argument "user_names" with
      required := false,
      many := true }]

def deleteGroup : Node :=
  .members "delete" "Delete entities"
    [deleteAccountCommand, deleteAcpCommand, deleteAppCommand, deleteAppIconCommand, deleteBpCommand, deleteEndpointCommand, deleteEnvironmentCommand, deleteGroupCommand, deleteJobCommand, deleteLibraryGroup, deleteMarketplaceGroup, deleteProjectCommand, deleteRunbookCommand, deleteSecretCommand, deleteUserCommand]

def importLibraryTaskCommand : Node :=
  .plain "task" "Import task library item.\n\n(-f | --file) supports:\n\n\n    .sh       - Shell script file\n\n    .escript  - Escript file\n\n    .ps1      - Powershell Script File\n\n\nNote:\n\n    To import Set-Variable task, use --out-vars=\"OUT1,OUT2\".\n\nExamples:\n\ncalm import library task --name=\"Install IIS\" -f Install_IIS.ps1\n\ncalm import library task -f Install_Docker.sh\n\ncalm import library task -f Install_Docker.sh --out-vars=\"IP_ADDRESS,PORT\" "
    [fileParam "task_file" "Path of task file (.json, .sh, .escript, .ps1)",
    nameParam "Task Library item name (Optional)",
    .option ["--description", "-d"] "description" "Task Library description (Optional)",
    .option ["--out-vars", "-v"] "out_vars" "Set-variable output variables coma seperated (,) (Optional)",
    .switch ["--force", "-fc"] "force" "Updates existing task library item with the same name."]

def importLibraryGroup : Node :=
  .group "library" "Import Library entities"
    []
    "" false
    [importLibraryTaskCommand]

def importGroup : Node :=
  .members "import" "Import entities in Calm (task library)"
    [importLibraryGroup]

def setConfigCommand : Node :=
  .plain "config" "writes the configuration to config files i.e. config.ini and init.ini\n\n\x08\nNote: Cache will be updated if supplied host is different from configured host."
    [{ option ["--ip", "-i"] "host" "Prism Central server IP or hostname" with
      envvar := some "PRISM_SERVER_IP" },
    { option ["--port", "-P"] "port" "Prism Central server port number" with
      envvar := some "PRISM_SERVER_PORT" },
    { option ["--username", "-u"] "username" "Prism Central username" with
      envvar := some "PRISM_USERNAME" },
    { option ["--password", "-p"] "password" "Prism Central password" with
      envvar := some "PRISM_PASSWORD" },
    .option ["--project", "-pj"] "project_name" "Project name for entity",
    { option ["--db_file", "-d"] "db_location" "Path to local database file" with
      envvar := some "DATABASE_LOCATION",
      type := .path true true false },
    { option ["--local_dir", "-ld"] "local_dir" "Path to local directory for storing secrets" with
      envvar := some "LOCAL_DIR",
      type := .path true false true },
    .option ["--log_level", "-l"] "log_level" "Default log level",
    { argument "config_file" with
      required := false }]

def setGroup : Node :=
  .members "set" "Sets the entities"
    [setConfigCommand]

def updateAcpCommand : Node :=
  .plain "acp" "Updates an acp"
    [.argument "acp_name",
    { option ["--project", "-p"] "project" "ACP project name" with
      required := true },
    { option ["--add_user", "-au"] "add_user_list" with
      multiple := true,
      default := .value (.arr []) },
    { option ["--add_group", "-ag"] "add_group_list" with
      multiple := true,
      default := .value (.arr []) },
    { option ["--remove_user", "-ru"] "remove_user_list" with
      multiple := true,
      default := .value (.arr []) },
    { option ["--remove_group", "-rg"] "remove_group_list" with
      multiple := true,
      default := .value (.arr []) }]

def updateAppCommand : Node :=
  .command "app" "Updates an application"
    [.argument "app_name",
    .argument "patch_name",
    .switch ["--ignore_runtime_variables", "-i"] "ignore_runtime_variables" "Ignore runtime variables and use defaults",
    { option ["--runtime_params", "-r"] "runtime_params_file" "Path to python file for runtime editables" with
      type := .path true true false },
    watchParam]
    "3.3.0" false

def updateCacheCommand : Node :=
  .plain "cache" "Update the data for dynamic entities stored in the cache"
    [{ option ["--entity", "-e"] "entity" "Cache entity, if not given will update whole cache" with
      type := .choice ["ahv_subnet", "ahv_disk_image", "account", "resource_type", "project", "user", "role", "directory_service", "user_group", "ahv_network_function_chain", "environment"] }]

def updateEnvironmentCommand : Node :=
  .command "environment" "Updates environment of an existing project."
    [.argument "env_name",
    { option ["--project", "-p"] "project_name" "Project name" with
      required := true },
    fileParam "env_file" "Path of environment file to update",
    noCacheUpdateParam]
    "3.2.0" false

def updateMarketplaceBpCommand : Node :=
  .plain "bp" "Update a marketplace manager blueprint"
    [.argument "name",
    itemVersionParam true "Version of marketplace blueprint",
    categoryParam "Category for marketplace blueprint",
    projectsParam "Projects for marketplace blueprint",
    .option ["--description", "-d"] "description" "Description for marketplace blueprint",
    sourceParam "App Source for marketplace blueprint"]

def updateMarketplaceRunbookCommand : Node :=
  .command "runbook" "Update a marketplace manager runbook"
    [.argument "name",
    itemVersionParam true "Version of marketplace runbook",
    categoryParam "Category for marketplace runbook",
    projectsParam "Projects for marketplace runbook",
    .option ["--description", "-d"] "description" "Description for marketplace runbook",
    sourceParam "App Source for marketplace runbook"]
    "3.2.0" false

def updateMarketplaceGroup : Node :=
  .members "marketplace" "Update marketplace entities"
    [updateMarketplaceBpCommand, updateMarketplaceRunbookCommand]

def updateProjectCommand : Node :=
  .plain "project" "    Updates a project.\n\n\x08\nUsability:\n    a. If project_file is given, command will use file to update project. Environment updation is not allowed\n    b. If project_file is not given , project will be updated based on other cli switches\n       i.e. add_user, add_group, remove_user, remove_group\n    c. Project ACPs will be updated synchronously you remove users/groups from project"
    [.argument "project_name",
    fileParam "project_file" "Path of Project file to upload" false,
    { option ["--add_user", "-au"] "add_user_list" "name of user to be added" with
      multiple := true,
      default := .value (.arr []) },
    { option ["--add_group", "-ag"] "add_group_list" "name of group to be added" with
      multiple := true,
      default := .value (.arr []) },
    { option ["--add_account", "-aa"] "add_account_list" "name of account to be added" with
      multiple := true,
      default := .value (.arr []) },
    { option ["--remove_account", "-ra"] "remove_account_list" "name of account to be removed" with
      multiple := true,
      default := .value (.arr []) },
    { option ["--remove_user", "-ru"] "remove_user_list" "name of user to be removed" with
      multiple := true,
      default := .value (.arr []) },
    { option ["--remove_group", "-rg"] "remove_group_list" "name of group to be removed" with
      multiple := true,
      default := .value (.arr []) },
    noCacheUpdateParam]

def updateRunbookCommand : Node :=
  .command "runbook" "Updates a runbook"
    [fileParam "runbook_file" "Path of Runbook file to upload",
    { option ["--name", "-n"] "name" "Runbook name" with
      required := true },
    .option ["--description"] "description" "Runbook description (Optional)"]
    "3.0.0" true

def updateSecretCommand : Node :=
  .plain "secret" "Updates a secret\n\nNAME is the alias for your secret"
    [.argument "name",
    { option ["--value", "-v"] "value" with
      prompt := some "Value",
      hideInput := true,
      confirm := true }]

def updateGroup : Node :=
  .members "update" "Update entities"
    [updateAcpCommand, updateAppCommand, updateCacheCommand, updateEnvironmentCommand, updateMarketplaceGroup, updateProjectCommand, updateRunbookCommand, updateSecretCommand]

end Blueprints.Cli
