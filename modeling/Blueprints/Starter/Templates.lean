
namespace Blueprints.Starter.Templates

def lines (ls : List String) : String := "\n".intercalate ls

/-- The HTTP task of a sample runbook that counts the entities of a kind into a variable. -/
def countTask (name kind : String) : List String := ["    Task.HTTP.post(",
  "        name=\"" ++ name ++ "\",",
  "        relative_url=\"/" ++ kind ++ "/list\",",
  "        body=json.dumps(\x7b\x7d),
        headers=\x7b\"Authorization\": \"Bearer @@\x7bcalm_jwt\x7d@@\"\x7d,
        content_type=\"application/json\",",
  "        response_paths=\x7b\"" ++ kind ++ "_count\": \"$.metadata.total_matches\"\x7d,",
  "        status_mapping=\x7b200: True\x7d,
    )"]

/-- The runbook file of a new runbook project: endpoints, variables, HTTP tasks, and a loop with a decision. -/
def runbookFile : String := lines (["# THIS FILE IS AUTOMATICALLY GENERATED.
\"\"\"
Sample Calm DSL for «obj.runbook_name» runbook

The top-level folder contains the following files:
«obj.runbook_name»Runbook/
├── runbook.py
└── scripts
    └── entity_stats.py

On run, this runbook does the following:
  1. Creates a HTTP and a Linux Endpoint
  2. Create runbook variables to store calm entities count
  3. Added HTTP Tasks to get calm entities count
  4. Runs Exec Task (which prints entities status) and while loop task in parallel
  5. Under while loop task, a decision task is triggered using loop_variable

Useful commands (execute from top-level directory):
  1. calm compile runbook --file «obj.runbook_name»Runbook/runbook.py
  2. calm create runbook --file «obj.runbook_name»Runbook/runbook.py --name <runbook_name>
  3. calm get runbooks --name <runbook_name>
  4. calm describe runbook <runbook_name>
  5. calm run runbook <runbook_name> -w
  6. calm get runbook_executions
  7. calm delete runbook <runbook_name>
  8. calm watch runbook_execution <RUNLOG_UUID>
  9. calm pause runbook_execution <RUNLOG_UUID>
  10. calm resume runbook_execution <RUNLOG_UUID>
  11. calm abort runbook_execution <RUNLOG_UUID>

\"\"\"",
  "import json",
  "
from calm.dsl.runbooks import RunbookVariable as Variable
from calm.dsl.runbooks import RunbookTask as Task, CalmEndpoint as Endpoint
from calm.dsl.runbooks import runbook, basic_cred
from calm.dsl.runbooks import parallel, branch


# Create Endpoints
Cred = basic_cred(\"vm_username\", \"vm_password\", name=\"endpoint_cred\")
PCEndpoint = Endpoint.HTTP(\"https://«obj.pc_ip»:«obj.pc_port»/api/nutanix/v3\")
IPEndpoint = Endpoint.Linux.ip([\"VM_IP\"], cred=Cred)


@runbook
def «obj.runbook_name»(endpoints=[PCEndpoint, IPEndpoint]):
    \"\"\" Sample runbook for «obj.runbook_name» \"\"\"

    # Defining variables for entity counts
    endpoints_count  = Variable.Simple.int(\"0\", runtime=True)  # noqa
    blueprints_count = Variable.Simple.int(\"0\", runtime=True)  # noqa
    runbooks_count   = Variable.Simple.int(\"0\", runtime=True)  # noqa
    apps_count       = Variable.Simple.int(\"0\", runtime=True)  # noqa

    # HTTP Tasks to get CALM Entity Counts
    # default target is set as endpoints[0] = PCEndpoint, therefore target not required for http tasks"] ++
  countTask "EndpointCount" "endpoints" ++ countTask "BlueprintCount" "blueprints" ++
  countTask "RunbookCount" "runbooks" ++ countTask "AppCount" "apps" ++ ["
    # running tasks in parallel
    with parallel() as p:

        with branch(p):

            # Exec Task to print all entity stats
            Task.Exec.escript(name=\"EntityStats\", filename=\"scripts/entity_stats.py2\", target=endpoints[1])

        with branch(p):

            # loop task example
            with Task.Loop(iterations=2, name=\"LoopTask\", loop_variable=\"loop_var\"):

                # decision task example
                with Task.Decision.escript(name=\"DecisionTask\", script=\"print 'ExitCode-@@\x7bloop_var\x7d@@';exit(@@\x7bloop_var\x7d@@)\") as d:
                    if d.ok:
                        Task.Exec.escript(name=\"TruePath\", script=\"print 'True path is executed'\")
                    else:
                        Task.Exec.escript(name=\"FalsePath\", script=\"print 'False path is executed'\")"])

/-- The opening of a sample blueprint file: its docstring, whose second launch step is
    `installStep`, and the import of `os`. -/
def blueprintDoc (installStep : String) : List String := ["# THIS FILE IS AUTOMATICALLY GENERATED.
\"\"\"
Sample Calm DSL for «obj.bp_name» blueprint

The top-level folder contains the following files:
HelloBlueprint/
├── .local
│   └── keys
│       ├── centos
│       └── centos_pub
├── blueprint.py
└── scripts
    ├── pkg_install_task.sh
    └── pkg_uninstall_task.sh

On launch, this blueprint does the following:
  1. Creates AHV VM (2 vCPUs, 4G Mem, 1 core)",
  installStep,
  "  3. Injects SSH public key in the VM using cloud init.
  4. Creates calm credential using the SSH private key to run tasks on the VM.

Order of execution for every deployment during blueprint launch:
  1. Substrate.__pre_create__() (Only http and escript tasks are allowed here)
  2. Substrate.__create__() (Generated from provider_spec)
  3. Package.__install__() (Scripts to install application go here)
  4. Service.__create__() (Scripts to configure and create the service go here)
  5. Service.__start__() (Scripts to start the service go here)

Useful commands (execute from top-level directory):
  1. calm compile bp --file «obj.bp_name»Blueprint/blueprint.py
  2. calm create bp --file «obj.bp_name»Blueprint/blueprint.py --name <blueprint_name>
  3. calm get bps --name <blueprint_name>
  4. calm describe bp <blueprint_name>
  5. calm launch bp <blueprint_name> --app_name <app_name> -i
  6. calm get apps --name <app_name>
  7. calm describe app <app_name>
  8. calm delete app <app_name>
  9. calm delete bp <blueprint_name>

\"\"\"
",
  "import os",
  ""]

/-- The credential of a sample blueprint, made from the keys of the project. -/
def centosCredential : List String := ["

# SSH Credentials
CENTOS_USER = \"centos\"
CENTOS_KEY = read_local_file(os.path.join(\"keys\", \"centos\"))
CENTOS_PUBLIC_KEY = read_local_file(os.path.join(\"keys\", \"centos_pub\"))
CentosCred = basic_cred(
    CENTOS_USER, CENTOS_KEY, name=\"Centos\", type=\"KEY\", default=True,
)
"]

/-- The network card and the cloud-init users of a sample blueprint's machine. -/
def cloudInitUsers : List String := ["    ]
    nics = [AhvVmNic.DirectNic.ingress(subnet=\"«obj.subnet_name»\", cluster=\"«obj.cluster_name»\")]

    guest_customization = AhvVmGC.CloudInit(
        config=\x7b
            \"users\": [
                \x7b
                    \"name\": CENTOS_USER,
                    \"ssh-authorized-keys\": [CENTOS_PUBLIC_KEY],
                    \"sudo\": [\"ALL=(ALL) NOPASSWD:ALL\"],
                \x7d
            ]
        \x7d
    )

"]

/-- The blueprint file of a new multi-machine blueprint project on the Nutanix provider. -/
def blueprintFile : String := lines (blueprintDoc
  "  2. Installs CentOS 7 by downloading image from http://download.nutanix.com." ++ ["from calm.dsl.builtins import Service, Package, Substrate
from calm.dsl.builtins import Deployment, Profile, Blueprint
from calm.dsl.builtins import CalmVariable as Variable
from calm.dsl.builtins import CalmTask as Task
from calm.dsl.builtins import action, parallel, ref, basic_cred
from calm.dsl.builtins import read_local_file
from calm.dsl.builtins import vm_disk_package, AhvVmDisk, AhvVmNic
from calm.dsl.builtins import AhvVmGC, AhvVmResources, AhvVm"] ++
  centosCredential ++ ["# OS Image details for VM
CENTOS_IMAGE_SOURCE = \"http://download.nutanix.com/calm/CentOS-7-x86_64-1810.qcow2\"
CentosPackage = vm_disk_package(
    name=\"centos_disk\", config=\x7b\"image\": \x7b\"source\": CENTOS_IMAGE_SOURCE\x7d\x7d,
)


class «obj.bp_name»Service(Service):
    \"\"\"Sample Service\"\"\"

    # Service Variables
    ENV = Variable.WithOptions.Predefined.string(
        [\"DEV\", \"PROD\"], default=\"DEV\", is_mandatory=True, runtime=True
    )

    # Service Actions
    @action
    def __create__():
        # Step 1
        Task.Exec.ssh(name=\"Task1\", script=\"echo 'Service create in ENV=@@\x7bENV\x7d@@'\")

    @action
    def __start__():
        # Step 1
        Task.Exec.ssh(name=\"Task1\", script=\"echo 'Service start in ENV=@@\x7bENV\x7d@@'\")

    @action
    def __stop__():
        # Step 1
        Task.Exec.ssh(name=\"Task1\", script=\"echo 'Service stop in ENV=@@\x7bENV\x7d@@'\")

    @action
    def __delete__():
        # Step 1
        Task.Exec.ssh(name=\"Task1\", script=\"echo 'Service delete in ENV=@@\x7bENV\x7d@@'\")

    # Custom service actions
    @action
    def custom_action_1():
        \"\"\"Sample service action\"\"\"

        # Step 1
        Task.Exec.ssh(name=\"Task11\", script='echo \"Hello\"')

        # Step 2
        Task.Exec.ssh(name=\"Task12\", script='echo \"Hello again\"')

    @action
    def custom_action_2():

        # Step 1
        Task.Exec.ssh(name=\"Task21\", script=\"date\")

        # Step 2
        with parallel():  # All tasks within this context will be run in parallel
            Task.Exec.ssh(name=\"Task22a\", script=\"date\")
            Task.Exec.ssh(name=\"Task22b\", script=\"date\")

        # Step 3
        Task.Exec.ssh(name=\"Task23\", script=\"date\")


class «obj.bp_name»Package(Package):
    \"\"\"Sample Package\"\"\"

    # Services created by installing this Package
    services = [ref(«obj.bp_name»Service)]

    # Package Variables
    sample_pkg_var = Variable.Simple(\"Sample package installation\")

    # Package Actions
    @action
    def __install__():

        # Step 1
        Task.Exec.ssh(
            name=\"Task1\", filename=os.path.join(\"scripts\", \"pkg_install_task.sh\")
        )

    @action
    def __uninstall__():

        # Step 1
        Task.Exec.ssh(
            name=\"Task1\", filename=os.path.join(\"scripts\", \"pkg_uninstall_task.sh\")
        )


class «obj.bp_name»VmResources(AhvVmResources):

    memory = 4
    vCPUs = 2
    cores_per_vCPU = 1
    disks = [
        AhvVmDisk.Disk.Scsi.cloneFromVMDiskPackage(CentosPackage, bootable=True),"] ++
  cloudInitUsers ++ ["class «obj.bp_name»Vm(AhvVm):

    resources = «obj.bp_name»VmResources
    categories = \x7b\"AppFamily\": \"Demo\", \"AppType\": \"Default\"\x7d


class «obj.bp_name»Substrate(Substrate):
    \"\"\"AHV VM Substrate\"\"\"

    provider_type = \"AHV_VM\"
    provider_spec = «obj.bp_name»Vm

    # Substrate Actions
    @action
    def __pre_create__():

        # Step 1
        Task.Exec.escript(
            name=\"Task1\", script=\"print 'Pre Create task runs before VM is created'\"
        )

    @action
    def __post_delete__():

        # Step 1
        Task.Exec.escript(
            name=\"Task1\", script=\"print 'Post delete task runs after VM is deleted'\"
        )


class «obj.bp_name»Deployment(Deployment):
    \"\"\"Sample Deployment\"\"\"

    packages = [ref(«obj.bp_name»Package)]
    substrate = ref(«obj.bp_name»Substrate)


class «obj.bp_name»Profile(Profile):

    # Deployments under this profile
    deployments = [«obj.bp_name»Deployment]

    # Profile Variables
    var1 = Variable.Simple(\"sample_val1\", runtime=True)
    var2 = Variable.Simple(\"sample_val2\", runtime=True)
    var3 = Variable.Simple.int(\"2\", validate_regex=True, regex=r\"^[\\d]*$\")

    # Profile Actions
    @action
    def custom_profile_action_1():
        \"\"\"Sample description for a profile action\"\"\"

        # Step 1: Run a task on a service in the profile
        Task.Exec.ssh(
            name=\"Task1\",
            script='echo \"Profile level action using @@\x7bvar1\x7d@@ and @@\x7bvar2\x7d@@ and @@\x7bvar3\x7d@@\"',
            target=ref(«obj.bp_name»Service),
        )

        # Step 2: Call service action as a task.
        # It will execute all tasks under the given action.
        «obj.bp_name»Service.custom_action_1(name=\"Task6\")


class «obj.bp_name»(Blueprint):
    \"\"\" Sample blueprint for «obj.bp_name» app using AHV VM\"\"\"

    credentials = [CentosCred]
    services = [«obj.bp_name»Service]
    packages = [«obj.bp_name»Package, CentosPackage]
    substrates = [«obj.bp_name»Substrate]
    profiles = [«obj.bp_name»Profile]"])

/-- The blueprint file of a new single-machine blueprint project on the Nutanix provider. -/
def singleVmBlueprintFile : String := lines (blueprintDoc
  "  2. Installs «obj.vm_image» image on vm." ++ ["from calm.dsl.builtins import CalmVariable as Variable
from calm.dsl.builtins import CalmTask as Task
from calm.dsl.builtins import action, basic_cred
from calm.dsl.builtins import read_local_file
from calm.dsl.builtins import AhvVmResources, ahv_vm
from calm.dsl.builtins import AhvVmDisk, AhvVmNic, AhvVmGC
from calm.dsl.builtins import VmProfile, VmBlueprint
from calm.dsl.builtins import Metadata"] ++
  centosCredential ++ ["
class «obj.bp_name»VmResources(AhvVmResources):

    memory = 4
    vCPUs = 2
    cores_per_vCPU = 1
    disks = [
        AhvVmDisk.Disk.Scsi.cloneFromImageService(\"«obj.vm_image»\", bootable=True),"] ++
  cloudInitUsers ++ ["class «obj.bp_name»Profile(VmProfile):

    # Profile Variables
    var1 = Variable.Simple(\"sample_val1\", runtime=True)
    var2 = Variable.Simple(\"sample_val2\", runtime=True)

    # Vm Spec for Substrate
    provider_spec = ahv_vm(resources=«obj.bp_name»VmResources, name=\"«obj.bp_name»Vm\")

    # Package Actions
    @action
    def __install__():

        # Package install variable
        sample_pkg_var = Variable.Simple(\"Sample package installation\")

        # Step 1
        Task.Exec.ssh(
            name=\"Task1\", filename=os.path.join(\"scripts\", \"pkg_install_task.sh\")
        )
    
    @action
    def __uninstall__():

        # Step 1
        Task.Exec.ssh(
            name=\"Task1\", filename=os.path.join(\"scripts\", \"pkg_uninstall_task.sh\")
        )
    
    # Substrate Actions
    @action
    def __pre_create__():

        # Step 1
        Task.Exec.escript(
            name=\"Task1\", script=\"print 'Pre Create task runs before VM is created'\"
        )
    
    # Profile Actions
    @action
    def custom_profile_action_1():
        \"\"\"Sample description for a profile action\"\"\"

        # Note: Runbook Tasks, Deployment tasks are not allowed
        Task.Exec.ssh(
            name=\"Task1\",
            script='echo \"Profile level action using @@\x7bvar1\x7d@@ and @@\x7bvar2\x7d@@\"',
        )


class «obj.bp_name»(VmBlueprint):

    # Credentials for blueprint
    credentials = [CentosCred]

    profiles = [«obj.bp_name»Profile]


class «obj.bp_name»Metadata(Metadata):

    categories = \x7b\"TemplateType\": \"Vm\"\x7d"])

/-- The script of a new runbook project that prints the counts of entities. -/
def entityStatsScript : String := "# script to print calm entity counts

print \"Calm Entities Stats are as follows -\"
print \"Endpoint Count   - @@\x7bendpoints_count\x7d@@\"
print \"Blueprint Count  - @@\x7bblueprints_count\x7d@@\"
print \"Runbook Count    - @@\x7brunbooks_count\x7d@@\"
print \"Apps Count       - @@\x7bapps_count\x7d@@\"" ++ "\n"

/-- The install script of a new blueprint project. -/
def installScript : String := "#!/bin/bash

set -ex

echo \"@@\x7bsample_pkg_var\x7d@@\"

sudo yum install epel-release -y
sudo yum update -y

echo \"Package installation steps go here ...\"" ++ "\n"

/-- The uninstall script of a new blueprint project. -/
def uninstallScript : String := "#!/bin/bash

set -ex

echo \"Package uninstallation steps go here ...\"" ++ "\n"

end Blueprints.Starter.Templates
