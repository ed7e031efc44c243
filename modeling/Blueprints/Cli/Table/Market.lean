import Blueprints.Cli.Command

namespace Blueprints.Cli
open Cli.Param

def approveMarketplaceBpCommand : Node :=
  .plain "bp" "Approves a marketplace manager blueprint"
    [.argument "name",
    itemVersionParam false "Version of marketplace blueprint",
    categoryParam "Category for marketplace blueprint",
    projectsParam "Projects for marketplace blueprint",
    .switch ["--all_projects", "-ap"] "all_projects" "Approve bp to all projects"]

def approveMarketplaceRunbookCommand : Node :=
  .command "runbook" "Approves a marketplace manager runbook"
    [.argument "name",
    itemVersionParam false "Version of marketplace runbook",
    categoryParam "Category for marketplace runbook",
    projectsParam "Projects for marketplace runbook",
    .switch ["--all_projects", "-ap"] "all_projects" "Approve runbook to all runbook"]
    "3.2.0" false

def approveMarketplaceGroup : Node :=
  .members "marketplace" "Approve marketplace entities"
    [approveMarketplaceBpCommand, approveMarketplaceRunbookCommand]

def approveGroup : Node :=
  .members "approve" "Approve blueprints in marketplace manager"
    [approveMarketplaceGroup]

def publishBpCommand : Node :=
  .plain "bp" "Publish a blueprint to marketplace manager"
    [.argument "bp_name",
    itemVersionParam true "Version of marketplace blueprint",
    nameParam "Name of marketplace Blueprint",
    { option ["--description", "-d"] "description" "Description for marketplace blueprint" with
      default := .value (.str "") },
    .switch ["--with_secrets", "-w"] "with_secrets" "Preserve secrets while publishing blueprints to marketpalce",
    .switch ["--existing_markeplace_bp", "-e"] "existing_markeplace_bp" "Publish as new version of existing marketplace blueprint",
    .switch ["--publish_to_marketplace", "-pm"] "publish_to_marketplace" "Publish the blueprint directly to marketplace skipping the steps to approve, etc.",
    .switch ["--auto_approve", "-aa"] "auto_approve" "Auto approves the blueprint",
    projectsParam "Projects for marketplace blueprint (used for approving blueprint)",
    categoryParam "Category for marketplace blueprint (used for approving blueprint)",
    fileParam "icon_file" "Path of app icon image to be uploaded" false,
    .option ["--icon_name", "-i"] "icon_name" "App icon name for marketpalce blueprint",
    .switch ["--all_projects", "-ap"] "all_projects" "Publishes bp to all projects"]

def publishMarketplaceBpCommand : Node :=
  .plain "bp" "Publish a marketplace blueprint to marketplace store"
    [.argument "name",
    itemVersionParam false "Version of marketplace blueprint",
    categoryParam "Category for marketplace blueprint",
    sourceParam "App Source for marketplace blueprint",
    projectsParam "Projects for marketplace blueprint",
    .switch ["--all_projects", "-ap"] "all_projects" "Approve bp to all projects"]

def publishMarketplaceRunbookCommand : Node :=
  .command "runbook" "Publish a marketplace runbook to marketplace store"
    [.argument "name",
    itemVersionParam false "Version of marketplace runbook",
    categoryParam "Category for marketplace runbook",
    sourceParam "App Source for marketplace runbook",
    projectsParam "Projects for marketplace runbook",
    .switch ["--all_projects", "-ap"] "all_projects" "Approve runbook to all projects"]
    "3.2.0" false

def publishMarketplaceGroup : Node :=
  .members "marketplace" "Publish marketplace entities"
    [publishMarketplaceBpCommand, publishMarketplaceRunbookCommand]

def publishRunbookCommand : Node :=
  .command "runbook" "Publish a runbook to marketplace manager"
    [.argument "runbook_name",
    itemVersionParam true "Version of marketplace runbook",
    nameParam "Name of marketplace runbook",
    { option ["--description", "-d"] "description" "Description for marketplace runbook" with
      default := .value (.str "") },
    .switch ["--with_secrets", "-w"] "with_secrets" "Preserve secrets while publishing runbooks to marketplace",
    .switch ["--with_endpoints", "-w"] "with_endpoints" "Preserve endpoints publishing runbooks to marketplace",
    .switch ["--existing_markeplace_runbook", "-e"] "existing_markeplace_runbook" "Publish as new version of existing marketplace runbook",
    .switch ["--publish_to_marketplace", "-pm"] "publish_to_marketplace" "Publish the runbook directly to marketplace skipping the steps to approve, etc.",
    .switch ["--auto_approve", "-aa"] "auto_approve" "Auto approves the runbook",
    projectsParam "Projects for marketplace runbook (used for approving runbook)",
    categoryParam "Category for marketplace runbook (used for approving runbook)",
    fileParam "icon_file" "Path of app icon image to be uploaded" false,
    .option ["--icon_name", "-i"] "icon_name" "App icon name for marketplace runbook"]
    "3.2.0" false

def publishGroup : Node :=
  .members "publish" "Publish blueprints to marketplace"
    [publishBpCommand, publishMarketplaceGroup, publishRunbookCommand]

def rejectMarketplaceBpCommand : Node :=
  .plain "bp" "Reject marketplace manager blueprint"
    [.argument "name",
    itemVersionParam true "Version of marketplace blueprint"]

def rejectMarketplaceRunbookCommand : Node :=
  .command "runbook" "Reject marketplace manager runbook"
    [.argument "name",
    itemVersionParam true "Version of marketplace runbook"]
    "3.2.0" false

def rejectMarketplaceGroup : Node :=
  .members "marketplace" "Reject marketplace entities"
    [rejectMarketplaceBpCommand, rejectMarketplaceRunbookCommand]

def rejectGroup : Node :=
  .members "reject" "Reject blueprints from marketplace manager"
    [rejectMarketplaceGroup]

def unpublishMarketplaceBpCommand : Node :=
  .plain "bp" "Unpublish marketplace store blueprint"
    [.argument "name",
    itemVersionParam true "Version of marketplace blueprint",
    sourceParam "App Source of marketplace blueprint"]

def unpublishMarketplaceItemCommand : Node :=
  .plain "item" "Unpublish marketplace store item"
    [.argument "name",
    itemVersionParam true "Version of marketplace item",
    sourceParam "App Source of marketplace item"]

def unpublishMarketplaceGroup : Node :=
  .members "marketplace" "Unpublish marketplace entities"
    [unpublishMarketplaceBpCommand, unpublishMarketplaceItemCommand]

def unpublishGroup : Node :=
  .members "unpublish" "Unpublish blueprints from marketplace"
    [unpublishMarketplaceGroup]

end Blueprints.Cli
