import Blueprints.Cli.Command

namespace Blueprints.Cli
open Cli.Param

def describeAccountCommand : Node :=
  .plain "account" "Describe a account"
    [.argument "account_name"]

def describeAcpCommand : Node :=
  .plain "acp" "Describe an acp"
    [.argument "acp_name",
    { option ["--project", "-p"] "project" "ACP project name" with
      required := true },
    outParam "text" "json" "output format"]

def describeAppCommand : Node :=
  .plain "app" "Describe an app"
    [.argument "app_name",
    outParam "text" "json" "output format"]

def describeBpCommand : Node :=
  .plain "bp" "Describe a blueprint"
    [.argument "bp_name",
    outParam "text" "json" "output format"]

def describeEndpointCommand : Node :=
  .command "endpoint" "Describe a endpoint"
    [.argument "endpoint_name",
    outParam "text" "json" "output format [text|json]."]
    "3.0.0" true

def describeJobCommand : Node :=
  .command "job" "Describe a job"
    [.argument "job_name",
    outParam "text" "json" "output format [text|json]."]
    "3.0.0" true

def describeLibraryTaskCommand : Node :=
  .plain "task" "Describe a task from task library"
    [.argument "task_name",
    outParam "text" "json" "output format"]

def describeLibraryGroup : Node :=
  .group "library" "Describe Library entities"
    []
    "" false
    [describeLibraryTaskCommand]

def describeMarketplaceBpCommand : Node :=
  .plain "bp" "Describe a marketplace manager blueprint"
    [.argument "name",
    outParam "text" "json" "output format.",
    itemVersionParam false "Version of marketplace blueprint",
    sourceParam "App Source of marketplace blueprint",
    { option ["--app_state", "-a"] "app_state" "State of marketplace blueprint" with
      type := .choice ["PENDING", "ACCEPTED", "REJECTED", "PUBLISHED"] }]

def describeMarketplaceItemCommand : Node :=
  .plain "item" "Describe a marketplace store item"
    [.argument "name",
    outParam "text" "json" "output format",
    itemVersionParam false "Version of marketplace item",
    sourceParam "App Source for marketplace item"]

def describeMarketplaceRunbookCommand : Node :=
  .command "runbook" "Describe a marketplace manager runbook"
    [.argument "name",
    outParam "text" "json" "output format.",
    itemVersionParam false "Version of marketplace runbooks",
    sourceParam "App Source of marketplace runbook",
    { option ["--app_state", "-a"] "app_state" "State of marketplace runbook" with
      type := .choice ["PENDING", "ACCEPTED", "REJECTED", "PUBLISHED"] }]
    "3.2.0" false

def describeMarketplaceGroup : Node :=
  .members "marketplace" "Describe marketplace entities"
    [describeMarketplaceBpCommand, describeMarketplaceItemCommand, describeMarketplaceRunbookCommand]

def describeProjectCommand : Node :=
  .plain "project" "Describe a project"
    [.argument "project_name",
    outParam "text" "json" "output format"]

def describeRunbookCommand : Node :=
  .command "runbook" "Describe a runbook"
    [.argument "runbook_name",
    outParam "text" "json" "output format [text|json]."]
    "3.0.0" true

def describeGroup : Node :=
  .members "describe" "Describe apps, blueprints, projects, accounts, endpoints, runbooks"
    [describeAccountCommand, describeAcpCommand, describeAppCommand, describeBpCommand, describeEndpointCommand, describeJobCommand, describeLibraryGroup, describeMarketplaceGroup, describeProjectCommand, describeRunbookCommand]

def downloadActionRunlogCommand : Node :=
  .plain "action_runlog" "Download runlogs, given runlog uuid and app name"
    [.argument "runlog_uuid",
    { option ["--app", "-a"] "app_name" "App the action belongs to" with
      required := true },
    .option ["--file", "-f"] "file_name" "How to name the downloaded file"]

def downloadGroup : Node :=
  .members "download" "Download entities"
    [downloadActionRunlogCommand]

def getAccountsCommand : Node :=
  .plain "accounts" "Get accounts, optionally filtered by a string"
    [nameParam "Search for provider account by name",
    filterParam "Filter projects by this string",
    limitParam,
    offsetParam "-s",
    quietParam "Show only account names",
    allItemsParam,
    { option ["--type"] "account_type" "Search for accounts of specific provider" with
      multiple := true,
      type := .choice ["aws", "k8s", "vmware", "azure", "gcp", "nutanix", "custom_provider"] }]

def getAcpsCommand : Node :=
  .plain "acps" "Get acps, optionally filtered by a string"
    [nameParam "Search for acps by name",
    filterParam "Filter acps by this string",
    { option ["--project", "-p"] "project" "ACP project name" with
      required := true },
    limitParam,
    offsetParam "-s",
    quietParam "Show only acp names",
    outParam "text" "json" "output format"]

def getAppIconsCommand : Node :=
  .plain "app_icons" "Get the list of app_icons"
    [nameParam "Search for app icons by name",
    limitParam,
    offsetParam "-s",
    quietParam "Show only app icon names.",
    .switch ["--marketplace_use", "-m"] "marketplace_use" "Show whether used for marketplace icon or not"]

def getAppsCommand : Node :=
  .plain "apps" "Get Apps, optionally filtered by a string"
    [nameParam "Search for apps by name",
    filterParam "Filter apps by this string",
    limitParam,
    offsetParam "-s",
    quietParam "Show only application names",
    allItemsParam,
    outParam "text" "json" "output format"]

def getBpsCommand : Node :=
  .plain "bps" "Get the blueprints, optionally filtered by a string"
    [nameParam "Search for blueprints by name",
    filterParam "Filter blueprints by this string",
    limitParam,
    offsetParam "-s",
    quietParam "Show only blueprint names.",
    allItemsParam,
    outParam "text" "json" "output format"]

def getBrownfieldVmsCommand : Node :=
  .plain "vms" "Get brownfield vms\n\n\x08\n>: If there are multiple accounts per provider_type in project, user need to supply the account name\n   other than provider type (added in 3.2.0)"
    [limitParam,
    offsetParam "-s",
    quietParam "Show only vms names.",
    outParam "text" "json" "output format",
    { option ["--project", "-p"] "project" "Project name" with
      required := true },
    .option ["--account", "-a"] "account" "Account name",
    { option ["--type", "-t"] "provider_type" "Provider type" with
      type := .choice ["AHV_VM", "AWS_VM", "AZURE_VM", "GCP_VM", "VMWARE_VM"],
      default := .value (.str "AHV_VM") }]

def getBrownfieldGroup : Node :=
  .members "brownfield" "Get brownfield items"
    [getBrownfieldVmsCommand]

def getDirectoryServicesCommand : Node :=
  .plain "directory_services" "Get directory services, optionally filtered by a string"
    [nameParam "Search for directory services by name",
    filterParam "Filter directory services by this string",
    limitParam,
    offsetParam "-s",
    quietParam "Show only directory service names",
    outParam "text" "json" "output format"]

def getEndpointsCommand : Node :=
  .command "endpoints" "Get the endpoints, optionally filtered by a string"
    [nameParam "Search for endpoints by name",
    filterParam "Filter endpoints by this string",
    limitParam,
    offsetParam "-o",
    quietParam "Show only endpoint names",
    allItemsParam]
    "3.0.0" true

def getEnvironmentsCommand : Node :=
  .command "environments" "Get the environment, optionally filtered by a string"
    [nameParam "Search for environments by name",
    filterParam "Filter environments by this string",
    limitParam,
    offsetParam "-s",
    quietParam "Show only environments names.",
    .option ["--project", "-p"] "project_name" "Project name",
    outParam "text" "json" "output format"]
    "3.2.0" false

def getGroupsCommand : Node :=
  .plain "groups" "Get groups, optionally filtered by a string"
    [nameParam "Search for groups by name",
    filterParam "Filter groups by this string",
    limitParam,
    offsetParam "-s",
    quietParam "Show only group names",
    outParam "text" "json" "output format"]

def getJobInstancesCommand : Node :=
  .command "job_instances" "Describe a job"
    [.argument "job_name",
    outParam "text" "json" "output format [text|json].",
    filterParam "Filter jobs by this string",
    limitParam,
    offsetParam "-o",
    allItemsParam]
    "3.0.0" true

def getJobsCommand : Node :=
  .command "jobs" "Get the jobs, optionally filtered by a string"
    [nameParam "Search for job by name",
    filterParam "Filter jobs by this string",
    limitParam,
    offsetParam "-o",
    quietParam "Show only job names.",
    allItemsParam]
    "3.0.0" true

def getLibraryTasksCommand : Node :=
  .plain "tasks" "Get the task from task library, optionally filtered by a string"
    [nameParam "Search for task from task library by name",
    filterParam "Filter tasks from task library by this string",
    limitParam,
    offsetParam "-o",
    quietParam "Show only task from task library names.",
    allItemsParam]

def getLibraryGroup : Node :=
  .group "library" "Get Library entities"
    []
    "" false
    [getLibraryTasksCommand]

def getMarketplaceBpsCommand : Node :=
  .plain "bps" "Get marketplace manager blueprints"
    [nameParam "Filter by name of marketplace blueprints",
    quietParam "Show only marketplace blueprint names",
    { option ["--app_family", "-f"] "app_family" "Filter by app family category of marketplace blueprints" with
      default := .value (.str "All") },
    { option ["--app_state", "-a"] "app_states" "filter by state of marketplace blueprints" with
      multiple := true,
      type := .choice ["PENDING", "ACCEPTED", "REJECTED", "PUBLISHED"] },
    .option ["--filter", "-fb"] "filter_by" "Filter marketplace blueprints by this string"]

def getMarketplaceItemsCommand : Node :=
  .plain "items" "Get marketplace store items"
    [nameParam "Filter by name of marketplace items",
    quietParam "Show only marketplace item names",
    { option ["--app_family", "-f"] "app_family" "Filter by app family category of marketplace item" with
      default := .value (.str "All") },
    .switch ["--display_all", "-d"] "display_all" "Show all marketplace items which are published",
    .option ["--filter", "-fb"] "filter_by" "Filter marketplace items by this string"]

def getMarketplaceRunbooksCommand : Node :=
  .command "runbooks" "Get marketplace manager runbooks"
    [nameParam "Filter by name of marketplace runbooks",
    quietParam "Show only marketplace runbooks names",
    { option ["--app_family", "-f"] "app_family" "Filter by app family category of marketplace runbooks" with
      default := .value (.str "All") },
    { option ["--app_state", "-a"] "app_states" "filter by state of marketplace runbooks" with
      multiple := true,
      type := .choice ["PENDING", "ACCEPTED", "REJECTED", "PUBLISHED"] },
    .option ["--filter", "-fb"] "filter_by" "Filter marketplace runbooks by this string"]
    "3.2.0" false

def getMarketplaceGroup : Node :=
  .members "marketplace" "Get marketplace entities"
    [getMarketplaceBpsCommand, getMarketplaceItemsCommand, getMarketplaceRunbooksCommand]

def getProjectsCommand : Node :=
  .plain "projects" "Get projects, optionally filtered by a string"
    [nameParam "Search for projects by name",
    filterParam "Filter projects by this string",
    limitParam,
    offsetParam "-s",
    quietParam "Show only project names",
    outParam "text" "json" "output format"]

def getProtectionPoliciesCommand : Node :=
  .plain "protection-policies" "Get all protection policies"
    [limitParam,
    offsetParam "-o",
    .option ["--project", "-p"] "project" "Project name",
    quietParam "Show only names of protection rules and corresponding policy"]

def getRolesCommand : Node :=
  .plain "roles" "Get roles, optionally filtered by a string"
    [nameParam "Search for roles by name",
    filterParam "Filter roles by this string",
    limitParam,
    offsetParam "-s",
    quietParam "Show only role names",
    outParam "text" "json" "output format"]

def getRunbookExecutionsCommand : Node :=
  .command "runbook_executions" "Get previous runbook executions, optionally filtered by a string"
    [nameParam "Search for previous runbook runs by name of runbook (Optional)",
    filterParam "Filter previous runbook executions by this string",
    limitParam,
    offsetParam "-o"]
    "3.0.0" true

def getRunbooksCommand : Node :=
  .command "runbooks" "Get the runbooks, optionally filtered by a string"
    [nameParam "Search for runbooks by name",
    filterParam "Filter runbooks by this string",
    limitParam,
    offsetParam "-o",
    quietParam "Show only runbook names.",
    allItemsParam]
    "3.0.0" true

def getSecretsCommand : Node :=
  .plain "secrets" "Get secrets"
    [quietParam "Show only sceret names."]

def getServerStatusCommand : Node :=
  .plain "status" "Get calm server connection status" []

def getServerGroup : Node :=
  .members "server" "Get calm server details"
    [getServerStatusCommand]

def getUsersCommand : Node :=
  .plain "users" "Get users, optionally filtered by a string"
    [nameParam "Search for users by name",
    filterParam "Filter users by this string",
    limitParam,
    offsetParam "-s",
    quietParam "Show only user names",
    outParam "text" "json" "output format"]

def getVmRecoveryPointsCommand : Node :=
  .plain "vm-recovery-points" "Get vm recovery points\n\n\x08\n>: If there are multiple accounts per provider_type in project, user need to supply the account name\n   other than provider type (added in 3.2.0)\n>: Available for ahv provider only"
    [nameParam "Search for vm recovery points by name",
    limitParam,
    offsetParam "-s",
    quietParam "Show only recovery point names.",
    outParam "text" "json" "output format",
    { option ["--project", "-p"] "project" "Project name" with
      required := true },
    .option ["--account", "-a"] "account" "Account name"]

def getGroup : Node :=
  .members "get" "Get various things like blueprints, apps: `get apps`, `get bps`, `get endpoints` and `get runbooks` are the primary ones."
    [getAccountsCommand, getAcpsCommand, getAppIconsCommand, getAppsCommand, getBpsCommand, getBrownfieldGroup, getDirectoryServicesCommand, getEndpointsCommand, getEnvironmentsCommand, getGroupsCommand, getJobInstancesCommand, getJobsCommand, getLibraryGroup, getMarketplaceGroup, getProjectsCommand, getProtectionPoliciesCommand, getRolesCommand, getRunbookExecutionsCommand, getRunbooksCommand, getSecretsCommand, getServerGroup, getUsersCommand, getVmRecoveryPointsCommand]

def showCacheCommand : Node :=
  .plain "cache" "Display the cache data" []

def showCommandsCommand : Node :=
  .plain "commands" "show all commands of dsl cli" []

def showConfigCommand : Node :=
  .plain "config" "Shows server configuration" []

def showGroup : Node :=
  .members "show" "Shows the cached data(Dynamic data) etc."
    [showCacheCommand, showCommandsCommand, showConfigCommand]

def watchActionRunlogCommand : Node :=
  .plain "action_runlog" "Watch an app"
    [.argument "runlog_uuid",
    { option ["--app", "-a"] "app_name" "Watch action run in an app" with
      required := true },
    { option ["--poll-interval", "-p"] "poll_interval" "Give polling interval" with
      showDefault := true,
      type := .int,
      default := .value (.int 10) }]

def watchAppCommand : Node :=
  .plain "app" "Watch an app"
    [.argument "app_name",
    { option ["--poll-interval", "-p"] "poll_interval" "Give polling interval" with
      showDefault := true,
      type := .int,
      default := .value (.int 10) }]

def watchRunbookExecutionCommand : Node :=
  .command "runbook_execution" "Watch the runbook execution using given runlog UUID"
    [.argument "runlog_uuid"]
    "3.0.0" true

def watchTaskCommand : Node :=
  .plain "task" "Watch a task"
    [.argument "task_uuid",
    { option ["--poll_interval", "-p"] "poll_interval" "Give polling interval" with
      showDefault := true,
      type := .int,
      default := .value (.int 2) }]

def watchGroup : Node :=
  .members "watch" "Track actions running on apps or runbook executions"
    [watchActionRunlogCommand, watchAppCommand, watchRunbookExecutionCommand, watchTaskCommand]

end Blueprints.Cli
