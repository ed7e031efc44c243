
namespace Blueprints.Source.Templates

def lines (ls : List String) : String := "\n".intercalate ls

/-- An action: a decorated function whose body holds its variables and tasks. -/
def action : String := "@action
def «obj.name»(«% if obj.gui_display_name -%»name=\"«obj.gui_display_name»\"«%- endif %»):
    «% if obj.description -%»\"\"\"«obj.description»\"\"\"«%- endif %»
«% if obj.variables or obj.tasks %»
«%- for variable in obj.variables %»
«variable | indent 4»
«%- endfor %»
«%- for task in obj.tasks %»
«task | indent 4»
«%- endfor %»
«% else %»
    pass
«% endif %»"

/-- A network card: the card class's constructor of a function kind (`egress`, `ingress` or
    `tap`) called on the subnet's name, and the cluster's when there is one. -/
def ahvNic (cardClass function : String) : String :=
  "AhvVmNic." ++ cardClass ++ "." ++ function ++
    "(\"«obj.subnet_name»\" «%- if obj.cluster_name %», cluster=\"«obj.cluster_name»\"«%- endif %»)"

/-- A machine class of the Nutanix provider, after its resources class. -/
def ahvVm : String := "«obj.resources»


class «obj.name»(AhvVm):

    «% if obj.gui_display_name %»name=\"«obj.gui_display_name»\"«% endif %»
    resources = «obj.resources_cls_name»
    «% if obj.categories %»categories = «obj.categories»«% endif %»"

/-- A CD-ROM on the IDE bus, cloned from an image. -/
def ahvVmCdromIdeCloneFromImage : String := "«% if obj.bootable %»
AhvVmDisk.CdRom.Ide.cloneFromImageService(\"«obj.name»\", bootable=True)
«% else %»
AhvVmDisk.CdRom.Ide.cloneFromImageService(\"«obj.name»\")
«% endif %»"

/-- A CD-ROM on the IDE bus, cloned from a disk image package. -/
def ahvVmCdromIdeCloneFromPkg : String := "«% if obj.bootable %»
AhvVmDisk.CdRom.Ide.cloneFromVMDiskPackage(«obj.name», bootable=True)
«% else %»
AhvVmDisk.CdRom.Ide.cloneFromVMDiskPackage(«obj.name»)
«% endif %»"

def ahvVmCdromIdeEmptyCdrom : String :=
  "AhvVmDisk.CdRom.Ide.emptyCdRom()"

/-- A CD-ROM on the SATA bus, cloned from an image. -/
def ahvVmCdromSataCloneFromImage : String := "«% if obj.bootable %»
AhvVmDisk.CdRom.Sata.cloneFromImageService(\"«obj.name»\", bootable=True)
«% else %»
AhvVmDisk.CdRom.Sata.cloneFromImageService(\"«obj.name»\")
«% endif %»"

/-- A CD-ROM on the SATA bus, cloned from a disk image package. -/
def ahvVmCdromSataCloneFromPkg : String := "«% if obj.bootable %»
AhvVmDisk.CdRom.Sata.cloneFromVMDiskPackage(«obj.name», bootable=True)
«% else %»
AhvVmDisk.CdRom.Sata.cloneFromVMDiskPackage(«obj.name»)
«% endif %»"

def ahvVmCdromSataEmptyCdrom : String :=
  "AhvVmDisk.CdRom.Sata.emptyCdRom()"

/-- A cloud-init customization read from a file. -/
def ahvVmCloudInit : String :=
  "AhvVmGC.CloudInit(filename=«obj.filename»)"

/-- A disk on the PCI bus, allocated on a storage container. -/
def ahvVmDiskPciAllocateContainer : String :=
  "AhvVmDisk.Disk.Pci.allocateOnStorageContainer(«obj.size»)"

/-- A disk on the PCI bus, cloned from an image. -/
def ahvVmDiskPciCloneFromImage : String := "«% if obj.bootable %»
AhvVmDisk.Disk.Pci.cloneFromImageService(\"«obj.name»\", bootable=True)
«% else %»
AhvVmDisk.Disk.Pci.cloneFromImageService(\"«obj.name»\")
«% endif %»"

/-- A disk on the PCI bus, cloned from a disk image package. -/
def ahvVmDiskPciCloneFromPkg : String := "«% if obj.bootable %»
AhvVmDisk.Disk.Pci.cloneFromVMDiskPackage(«obj.name», bootable=True)
«% else %»
AhvVmDisk.Disk.Pci.cloneFromVMDiskPackage(«obj.name»)
«% endif %»"

/-- A disk on the SCSI bus, allocated on a storage container. -/
def ahvVmDiskScsiAllocateContainer : String :=
  "AhvVmDisk.Disk.Scsi.allocateOnStorageContainer(«obj.size»)"

/-- A disk on the SCSI bus, cloned from an image. -/
def ahvVmDiskScsiCloneFromImage : String := "«% if obj.bootable %»
AhvVmDisk.Disk.Scsi.cloneFromImageService(\"«obj.name»\", bootable=True)
«% else %»
AhvVmDisk.Disk.Scsi.cloneFromImageService(\"«obj.name»\")
«% endif %»"

/-- A disk on the SCSI bus, cloned from a disk image package. -/
def ahvVmDiskScsiCloneFromPkg : String := "«% if obj.bootable %»
AhvVmDisk.Disk.Scsi.cloneFromVMDiskPackage(«obj.name», bootable=True)
«% else %»
AhvVmDisk.Disk.Scsi.cloneFromVMDiskPackage(«obj.name»)
«% endif %»"

/-- The arguments of a Sysprep customization that joins a domain: the script file, then those of
    the domain, its DNS address and search path, and the credential that are given. -/
def sysprepDomainArgs : String :=
  "(filename=«obj.filename»,«% if obj.sysprep.domain %» domain = '«obj.sysprep.domain»',«% endif %»«% if obj.sysprep.dns_ip %» dns_ip = '«obj.sysprep.dns_ip»',«% endif %»«% if obj.sysprep.dns_search_path %» dns_search_path = '«obj.sysprep.dns_search_path»',«% endif %»«% if obj.sysprep.credential %» credential = '«obj.sysprep.credential»',«% endif %»)"

/-- A Sysprep customization for a fresh installation, joining a domain. -/
def ahvVmFreshSysprepWithDomain : String :=
  "AhvVmGC.Sysprep.FreshScript.withDomain" ++ sysprepDomainArgs

/-- A Sysprep customization for a fresh installation, without a domain. -/
def ahvVmFreshSysprepWithoutDomain : String :=
  "AhvVmGC.Sysprep.FreshScript.withoutDomain(filename=«obj.filename»)"

def ahvVmGpu : String :=
  "AhvVmGpu.«obj.vendor_key».«obj.mode_key»(«% if obj.device_id and obj.device_id != -1 %»device_id=«obj.device_id»«% endif %»)"

/-- A Sysprep customization for a prepared installation, joining a domain. -/
def ahvVmPreparedSysprepWithDomain : String :=
  "AhvVmGC.Sysprep.PreparedScript.withDomain" ++ sysprepDomainArgs

/-- A Sysprep customization for a prepared installation, without a domain. -/
def ahvVmPreparedSysprepWithoutDomain : String :=
  "AhvVmGC.Sysprep.PreparedScript.withoutDomain(filename=«obj.filename»)"

/-- The resources class of a machine of the Nutanix provider. -/
def ahvVmResources : String := "class «obj.name»(AhvVmResources):

    memory = «obj.memory»
    vCPUs = «obj.vCPUs»
    cores_per_vCPU = «obj.cores_per_vCPU»
    «% if obj.disks %»disks = [«obj.disks»]«% endif %»
    «% if obj.nics %»nics = [«obj.nics»]«% endif %»
    «% if obj.gpus %»gpus = [«obj.gpus»]«% endif %»
    «% if obj.guest_customization %»guest_customization = «obj.guest_customization»«% endif %»
    «% if obj.serial_ports %»serial_ports = «obj.serial_ports»«% endif %»"

/-- A blueprint class and the entities it lists. -/
def blueprint : String := "class «obj.name»(Blueprint):
    «% if obj.description -%»\"\"\"«obj.description»\"\"\"«% endif %»
    «% if obj.services %»services = [«obj.services»]«% endif %»
    «% if obj.packages %»packages = [«obj.packages»]«% endif %»
    «% if obj.substrates %»substrates = [«obj.substrates»]«% endif %»
    «% if obj.profiles %»profiles = [«obj.profiles»]«% endif %»
    «% if obj.credentials %»credentials = [«obj.credentials»]«% endif %»"

/-- The whole blueprint file: secrets, credentials, disk images, entities, the blueprint and its metadata. -/
def bpFileHelper : String := lines ["# THIS FILE IS AUTOMATICALLY GENERATED.
# Disclaimer: Please test this file before using in production.
\"\"\"
Generated blueprint DSL (.py)
\"\"\"
",
  "import json     #no_qa",
  "import os       #no_qa",
  "
from calm.dsl.builtins import *  #no_qa


# Secret Variables
«%- for var_file in obj.secret_files %»
«var_file» = read_local_file('«var_file»')
«%- endfor %»

# Credentials
«%- for cred in obj.credentials %»
«cred»
«%- endfor %»

«% for vm_image in obj.vm_images %»
«vm_image»
«% endfor %»

«% for entity in obj.dependent_entities %»
«entity»
«% endfor %»
«obj.blueprint»

«% if obj.metadata %»«obj.metadata»«%- endif %»"]

/-- A credential bound to a name, its secret read from a local file. -/
def credential : String := "«% if obj.default %»
«obj.var_name» = basic_cred('«obj.username»', «obj.value», name='«obj.name»', type='«obj.type»', default=True, «% if obj.editables %»editables = «obj.editables»«%- endif %»)
«% else %»
«obj.var_name» = basic_cred('«obj.username»', «obj.value», name='«obj.name»', type='«obj.type»', «% if obj.editables %»editables = «obj.editables»«%- endif %»)
«% endif %»"

def deployment : String := "class «obj.name»(Deployment):
    «% if obj.description %»\"\"\"«obj.description»\"\"\"«% endif %»

    «% if obj.gui_display_name %»name=\"«obj.gui_display_name»\"«% endif %»
    min_replicas = '«obj.min_replicas»'
    max_replicas = '«obj.max_replicas»'
    «% if obj.default_replicas %»default_replicas = '«obj.default_replicas»'«%- endif %»
    «% if obj.dependencies %»dependencies = [«obj.dependencies»]«%- endif %»
    «% if obj.packages %»packages = [«obj.packages»]«%- endif %»
    «% if obj.substrate %»substrate = «obj.substrate»«%- endif %»
    «% if obj.editables %»editables = «obj.editables»«%- endif %»"

/-- The metadata class of a blueprint file. -/
def metadata : String := "class BpMetadata(Metadata):

    «% if obj.categories %»categories=«obj.categories»«% endif %»"

/-- A package class with its install and uninstall actions. -/
def package : String := "class «obj.name»(Package):
    «% if obj.description -%»\"\"\"«obj.description»\"\"\"«%- endif %»

    «% if obj.gui_display_name %»name=\"«obj.gui_display_name»\"«% endif %»
    «% if obj.services %»services=[«obj.services»]«%- endif %»
«%- for variable in obj.variables %»
    «variable»
«% endfor -%»
«% for action in obj.actions %»
«action | indent 4»
«% endfor %»"

def parallelTask : String := "with parallel():
«%- for task in obj.tasks %»
«task | indent 4»
«%- endfor %»"

/-- A profile class with its deployments, configurations, variables and actions. -/
def profile : String := "class «obj.name»(Profile):
    «% if obj.description %»\"\"\"«obj.description»\"\"\"«% endif %»

    «% if obj.gui_display_name %»name=\"«obj.gui_display_name»\"«% endif %»
    «% if obj.deployments %»deployments = [«obj.deployments»]«%- endif %»
    «% if obj.restore_configs %»restore_configs = [«obj.restore_configs»]«%- endif %»
    «% if obj.snapshot_configs %»snapshot_configs = [«obj.snapshot_configs»]«%- endif %»
«% for variable in obj.variables %»
«variable | indent 4»
«% endfor -%»
«% for action in obj.actions %»
«action | indent 4»
«%- endfor %»"

def readinessProbe : String :=
  "readiness_probe(connection_type=\"«obj.connection_type»\", disabled=«obj.disabled»«% if obj.retries %», retries=\"«obj.retries»\"«% endif %»«% if obj.connection_port %», connection_port=«obj.connection_port»«% endif %»«% if obj.address %», address=\"«obj.address»\"«% endif %»«% if obj.delay_secs %», delay_secs=\"«obj.delay_secs»\"«% endif %»«% if obj.credential %», credential=«obj.credential»«% endif %»«% if obj.editables_list %», editables_list=«obj.editables_list»«% endif %»)"

def ref : String :=
  "ref(«obj.name»)"

def restoreConfig : String :=
  "AppProtection.RestoreConfig(name='«obj.name»', target=ref(«obj.target»), delete_vm_post_restore=«obj.delete_vm_post_restore»)"

/-- A service class with its dependencies, variables and actions. -/
def service : String := "class «obj.name»(Service):
    «% if obj.description %»\"\"\"«obj.description»\"\"\"«% endif %»

    «% if obj.gui_display_name %»name=\"«obj.gui_display_name»\"«% endif %»
«% if obj.dependencies or obj.variables or obj.actions %»
    «% if obj.dependencies %»dependencies=[«obj.dependencies»]«% endif %»
«% for variable in obj.variables %»
«variable | indent 4»
«% endfor -%»
«% for action in obj.actions %»
«action | indent 4»
«% endfor %»
«% else %»
    pass
«% endif %»"

/-- A snapshot configuration of a profile. -/
def snapshotConfig : String := "«% if obj.policy %»
«% if obj.rule %»
AppProtection.SnapshotConfig(name='«obj.name»', target=ref(«obj.target»), restore_config=ref(«obj.restore_config»), policy=AppProtection.ProtectionPolicy('«obj.policy»', rule='«obj.rule»'))
«% else %»
AppProtection.SnapshotConfig(name='«obj.name»', target=ref(«obj.target»), restore_config=ref(«obj.restore_config»), policy=AppProtection.ProtectionPolicy('«obj.policy»'))
«% endif %»
«% else %»
AppProtection.SnapshotConfig(name='«obj.name»', target=ref(«obj.target»), restore_config=ref(«obj.restore_config»))
«% endif %»"

def substrate : String := "class «obj.name»(Substrate):
    «% if obj.description -%»\"\"\"«obj.description»\"\"\"«%- endif %»

    «% if obj.gui_display_name %»name=\"«obj.gui_display_name»\"«% endif %»
    os_type = '«obj.os_type»'
    provider_type = '«obj.provider_type»'
    provider_spec = «obj.provider_spec»
    «% if obj.provider_spec_editables%»provider_spec_editables = «obj.provider_spec_editables»«%- endif %»
    readiness_probe = «obj.readiness_probe»
    «% if obj.readiness_probe_cred -%»readiness_probe[\"credential\"] =  «obj.readiness_probe_cred»«%- endif %»
«% for action in obj.actions %»
«action | indent 4»
«% endfor %»"

def taskCallConfig : String :=
  "CalmTask.ConfigExec(name='«obj.name»', config=ref(«obj.config»))"

/-- A task that runs an action of an entity. -/
def taskCallRunbook : String :=
  "«obj.target».«obj.action»(name='«obj.name»')"

def taskDelay : String := "«%- if obj.target is not defined %»
CalmTask.Delay(name='«obj.name»', delay_seconds=«obj.delay_seconds»)
«%- else %»
CalmTask.Delay(name='«obj.name»', delay_seconds=«obj.delay_seconds», target=«obj.target»)
«%- endif %»"

/-- A task that runs a script of a kind, with the credential and the target when it has them. -/
def taskExec (kind : String) : String :=
  let call (more : String) :=
    "CalmTask.Exec." ++ kind ++ "(name='«obj.name»', filename=«obj.attrs.script_file»" ++ more ++ ")"
  lines ["«%- if obj.cred is not defined and obj.target is not defined %»",
  call "",
  "«%- elif obj.cred is not defined %»",
  call ", target=«obj.target»",
  "«%- elif obj.target is not defined %»",
  call ", cred=«obj.cred»",
  "«%- else %»",
  call ", cred=«obj.cred», target=«obj.target»",
  "«%- endif %»"]

/-- A task that runs a server-side script. -/
def taskExecEscript : String := taskExec "escript"

def taskExecPowershell : String := taskExec "powershell"

def taskExecSsh : String := taskExec "ssh"

/-- A call of an HTTP task of a method, with the request body and the target when it has them. -/
def httpCall (method : String) (body target : Bool) : String :=
  "CalmTask.HTTP." ++ method ++ "('«obj.attrs.url»', " ++
    (if body then "body=json.dumps(«obj.attrs.request_body»), " else "") ++
    "headers=«obj.headers», secret_headers=«obj.secret_headers» , " ++
    "content_type='«obj.attrs.content_type»', verify=«obj.attrs.tls_verify», " ++
    "status_mapping=«obj.status_mapping», response_paths=«obj.response_paths», name='«obj.name»'" ++
    (if target then ", target=«obj.target»" else "") ++ "«%- if obj.cred %», cred=«obj.cred»«%- endif %»)"

/-- A task that sends an HTTP request of a method that may carry a body. -/
def taskHttpWithBody (method : String) : String := lines ["«%- if obj.target is not defined and obj.attrs.request_body is not defined %»",
  httpCall method false false,
  "«%- elif obj.target is not defined %»",
  httpCall method true false,
  "«%- elif obj.attrs.request_body is not defined %»",
  httpCall method false true,
  "«%- else %»",
  httpCall method true true,
  "«%- endif %»"]

/-- A task that sends an HTTP DELETE request. -/
def taskHttpDelete : String := taskHttpWithBody "delete"

/-- A task that sends an HTTP GET request. -/
def taskHttpGet : String := lines ["«%- if obj.target is not defined %»",
  httpCall "get" false false,
  "«%- else %»",
  httpCall "get" false true,
  "«%- endif %»"]

/-- A task that sends an HTTP POST request. -/
def taskHttpPost : String := taskHttpWithBody "post"

/-- A task that sends an HTTP PUT request. -/
def taskHttpPut : String := taskHttpWithBody "put"

def taskScalingScalein : String := "«%- if obj.target is not defined %»
CalmTask.Scaling.scale_in('«obj.scaling_count»', name='«obj.name»')
«%- else %»
CalmTask.Scaling.scale_in('«obj.scaling_count»', name='«obj.name»', target=«obj.target»)
«%- endif %»"

def taskScalingScaleout : String := "«% if obj.target is not defined %»
CalmTask.Scaling.scale_out('«obj.scaling_count»', name='«obj.name»')
«% else %»
CalmTask.Scaling.scale_out('«obj.scaling_count»', name='«obj.name»', target=«obj.target»)
«% endif %»"

/-- A task that sets variables from a script of a kind. Its first test asks whether the target
    is given where the others ask whether it is missing. -/
def taskSetVariable (kind : String) : String :=
  let call (more : String) :=
    "CalmTask.SetVariable." ++ kind ++ "(name='«obj.name»', filename=«obj.attrs.script_file»" ++ more ++ ")"
  lines ["«%- if obj.cred is not defined and obj.target and obj.variables is not defined %»",
  call "",
  "«%- elif obj.cred is not defined %»",
  call ", target=«obj.target», variables=«obj.variables»",
  "«%- elif obj.target is not defined %»",
  call ", cred=«obj.cred», variables=«obj.variables»",
  "«%- elif obj.variables is not defined %»",
  call ", cred=«obj.cred», target=«obj.target»",
  "«%- else %»",
  call ", cred=«obj.cred», target=«obj.target», variables=«obj.variables»",
  "«%- endif %»"]

/-- A task that sets variables from a server-side script. -/
def taskSetvariableEscript : String := taskSetVariable "escript"

/-- A task that sets variables from a PowerShell script. -/
def taskSetvariablePowershell : String := taskSetVariable "powershell"

/-- A task that sets variables from a shell script. -/
def taskSetvariableSsh : String := taskSetVariable "ssh"

/-- The definition of a variable: a call of its constructor with what it is given first, its
    label, its default if it has one, its regex when the variable has one, and its flags. The
    regex follows the label without a space when `tight`; `runtime` is passed when the
    constructor takes it. -/
def variableDef (ctor first default : String) (tight runtime : Bool) : String :=
  let head := "«obj.name» = " ++ ctor ++ "(" ++ first ++ ", label='«obj.label»'" ++ default
  let tail := ", is_mandatory=«obj.is_mandatory», is_hidden=«obj.is_hidden»" ++
    (if runtime then ", runtime=«obj.runtime»" else "") ++ ", description='«obj.description»')"
  lines ["«%- if obj.regex %»",
  head ++ (if tight then "," else ", ") ++ "regex='«obj.regex»', validate_regex=«obj.validate_regex»" ++
      tail,
  "«%- else %»",
  head ++ tail,
  "«%- endif %»"]

def varSimpleDate : String :=
  variableDef "CalmVariable.Simple.date" "'«obj.value»'" "" false true

def varSimpleDatetime : String :=
  variableDef "CalmVariable.Simple.datetime" "'«obj.value»'" "" true true

def varSimpleInt : String :=
  variableDef "CalmVariable.Simple.int" "'«obj.value»'" "" false true

def varSimpleMultiline : String :=
  variableDef "CalmVariable.Simple.multiline" "«obj.value»" "" false true

def varSimpleSecretDate : String :=
  variableDef "CalmVariable.Simple.Secret.date" "«obj.value»" "" true true

def varSimpleSecretDatetime : String :=
  variableDef "CalmVariable.Simple.Secret.datetime" "«obj.value»" "" true true

def varSimpleSecretInt : String :=
  variableDef "CalmVariable.Simple.Secret.int" "«obj.value»" "" true true

def varSimpleSecretMultiline : String :=
  variableDef "CalmVariable.Simple.Secret.multiline" "«obj.value»" "" true true

def varSimpleSecretString : String :=
  variableDef "CalmVariable.Simple.Secret" "«obj.value»" "" false true

def varSimpleSecretTime : String :=
  variableDef "CalmVariable.Simple.Secret.time" "«obj.value»" "" false true

def varSimpleString : String :=
  variableDef "CalmVariable.Simple" "'«obj.value»'" "" false true

def varSimpleTime : String :=
  variableDef "CalmVariable.Simple.time" "'«obj.value»'" "" true true

/-- A variable of type date whose values are options a task gives. -/
def varWithOptionsFromTaskArrayDate : String :=
  variableDef "CalmVariable.WithOptions.FromTask.Array.date" "«obj.value»" "" false false

/-- A variable of type datetime whose values are options a task gives. -/
def varWithOptionsFromTaskArrayDatetime : String :=
  variableDef "CalmVariable.WithOptions.FromTask.Array.datetime" "«obj.value»" "" false false

/-- A variable of type int whose values are options a task gives. -/
def varWithOptionsFromTaskArrayInt : String :=
  variableDef "CalmVariable.WithOptions.FromTask.Array.int" "«obj.value»" "" false false

/-- A variable of type multiline whose values are options a task gives. -/
def varWithOptionsFromTaskArrayMultiline : String :=
  variableDef "CalmVariable.WithOptions.FromTask.Array.multiline" "«obj.value»" "" false false

/-- A variable of type string whose values are options a task gives. -/
def varWithOptionsFromTaskArrayString : String :=
  variableDef "CalmVariable.WithOptions.FromTask.Array" "«obj.value»" "" false false

/-- A variable of type time whose values are options a task gives. -/
def varWithOptionsFromTaskArrayTime : String :=
  variableDef "CalmVariable.WithOptions.FromTask.Array.time" "«obj.value»" "" false false

/-- A variable of type date whose value are options a task gives. -/
def varWithOptionsFromTaskDate : String :=
  variableDef "CalmVariable.WithOptions.FromTask.date" "«obj.value»" "" false false

/-- A variable of type datetime whose value are options a task gives. -/
def varWithOptionsFromTaskDatetime : String :=
  variableDef "CalmVariable.WithOptions.FromTask.datetime" "«obj.value»" "" false false

/-- A variable of type int whose value are options a task gives. -/
def varWithOptionsFromTaskInt : String :=
  variableDef "CalmVariable.WithOptions.FromTask.int" "«obj.value»" "" false false

/-- A variable of type multiline whose value are options a task gives. -/
def varWithOptionsFromTaskMultiline : String :=
  variableDef "CalmVariable.WithOptions.FromTask.multiline" "«obj.value»" "" false false

/-- A variable of type string whose value are options a task gives. -/
def varWithOptionsFromTaskString : String :=
  variableDef "CalmVariable.WithOptions.FromTask" "«obj.value»" "" false false

/-- A variable of type time whose value are options a task gives. -/
def varWithOptionsFromTaskTime : String :=
  variableDef "CalmVariable.WithOptions.FromTask.time" "«obj.value»" "" false false

/-- A variable of type date whose values are chosen from given options. -/
def varWithOptionsPredefinedArrayDate : String :=
  variableDef "CalmVariable.WithOptions.Predefined.Array.date" "«obj.choices»" ", defaults=«obj.value»" false true

/-- A variable of type datetime whose values are chosen from given options. -/
def varWithOptionsPredefinedArrayDatetime : String :=
  variableDef "CalmVariable.WithOptions.Predefined.Array.datetime" "«obj.choices»" ", defaults=«obj.value»" false true

/-- A variable of type int whose values are chosen from given options. -/
def varWithOptionsPredefinedArrayInt : String :=
  variableDef "CalmVariable.WithOptions.Predefined.Array.int" "«obj.choices»" ", defaults=«obj.value»" false true

/-- A variable of type multiline whose values are chosen from given options. -/
def varWithOptionsPredefinedArrayMultiline : String :=
  variableDef "CalmVariable.WithOptions.Predefined.Array.multiline" "«obj.choices»" ", defaults=«obj.value»" false true

/-- A variable of type string whose values are chosen from given options. -/
def varWithOptionsPredefinedArrayString : String :=
  variableDef "CalmVariable.WithOptions.Predefined.Array" "«obj.choices»" ", defaults=«obj.value»" false true

/-- A variable of type time whose values are chosen from given options. -/
def varWithOptionsPredefinedArrayTime : String :=
  variableDef "CalmVariable.WithOptions.Predefined.Array.time" "«obj.choices»" ", defaults=«obj.value»" false true

/-- A variable of type date whose value are chosen from given options. -/
def varWithOptionsPredefinedDate : String :=
  variableDef "CalmVariable.WithOptions.Predefined.date" "«obj.choices»" ", default='«obj.value»'" false true

/-- A variable of type datetime whose value are chosen from given options. -/
def varWithOptionsPredefinedDatetime : String :=
  variableDef "CalmVariable.WithOptions.Predefined.datetime" "«obj.choices»" ", default='«obj.value»'" false true

/-- A variable of type int whose value are chosen from given options. -/
def varWithOptionsPredefinedInt : String :=
  variableDef "CalmVariable.WithOptions.Predefined.int" "«obj.choices»" ", default='«obj.value»'" false true

/-- A variable of type multiline whose value are chosen from given options. -/
def varWithOptionsPredefinedMultiline : String :=
  variableDef "CalmVariable.WithOptions.Predefined.multiline" "«obj.choices»" ", default=«obj.value»" false true

/-- A variable of type string whose value are chosen from given options. -/
def varWithOptionsPredefinedString : String :=
  variableDef "CalmVariable.WithOptions" "«obj.choices»" ", default='«obj.value»'" false true

/-- A variable of type time whose value are chosen from given options. -/
def varWithOptionsPredefinedTime : String :=
  variableDef "CalmVariable.WithOptions.Predefined.time" "«obj.choices»" ", default='«obj.value»'" false true

def vmDiskPackage : String :=
  "«obj.name» = vm_disk_package(name='«obj.name»', description='«obj.description»', config=«obj.config»)"

end Blueprints.Source.Templates
