
namespace Blueprints

/-- An account of a provider. -/
structure AccountRow where
  name : String
  uuid : String
  providerType : String
  state : String := "VERIFIED"
  isHost : Bool := false
  clusters : List (String × String) := []
  pcAccount : Option String := none
deriving Repr, Inhabited

/-- A subnet of a Nutanix cluster. -/
structure SubnetRow where
  name : String
  uuid : String
  cluster : String
  accountUuid : String
  clusterUuid : String := ""
deriving Repr, Inhabited

/-- A disk image known to a Nutanix PC account. -/
structure ImageRow where
  name : String
  uuid : String
  imageType : String
  accountUuid : String
deriving Repr, Inhabited

/-- A project: its accounts by provider type and the subnets it allows per PC account. -/
structure ProjectRow where
  name : String
  uuid : String
  accounts : List (String × List String) := []
  whitelistedSubnets : List (String × List String) := []
deriving Repr, Inhabited

/-- The accounts of a project of a provider type. -/
def ProjectRow.accountsOf (p : ProjectRow) (providerType : String) : List String :=
  ((p.accounts.find? (·.1 == providerType)).map (·.2)).getD []

/-- An account that an environment includes, with the subnets it allows. -/
structure EnvironmentAccount where
  uuid : String
  name : String
  subnetUuids : Option (List String) := none
deriving Repr, Inhabited

/-- An environment of a project: its accounts by provider type. -/
structure EnvironmentRow where
  name : String
  uuid : String
  projectUuid : String
  accounts : List (String × List EnvironmentAccount) := []
deriving Repr, Inhabited

/-- A user or a user group of a directory. -/
structure PrincipalRow where
  name : String
  displayName : String
  uuid : String
  directory : String
deriving Repr, Inhabited

/-- An entity known only by name and uuid: a role, a directory service, a network function
    chain. -/
structure NamedRow where
  name : String
  uuid : String
deriving Repr, Inhabited

/-- A protection policy with one of its rules. -/
structure PolicyRow where
  name : String
  uuid : String
  ruleName : String
  ruleUuid : String
  ruleExpiry : Nat
  ruleType : String
  projectName : String
deriving Repr, Inhabited

/-- The tables of the local cache. -/
structure Cache where
  accounts : List AccountRow := []
  subnets : List SubnetRow := []
  images : List ImageRow := []
  projects : List ProjectRow := []
  environments : List EnvironmentRow := []
  users : List PrincipalRow := []
  roles : List NamedRow := []
  directoryServices : List NamedRow := []
  userGroups : List PrincipalRow := []
  networkFunctionChains : List NamedRow := []
  protectionPolicies : List PolicyRow := []
deriving Repr, Inhabited

namespace Cache

/-- The uuid of fixture entity `n` of a family: `00000000-FFFF-0000-0000-` and twelve digits. -/
def fixtureId (family : String) (n : Nat) : String :=
  let digits := toString n
  "00000000-" ++ family ++ "-0000-0000-" ++
    String.ofList (List.replicate (12 - digits.length) '0') ++ digits

/-- The server state that every request starts from. -/
def fixture : Cache where
  accounts := [
    { name := "NTNX_LOCAL_AZ", uuid := fixtureId "acc0" 1, providerType := "nutanix_pc",
      isHost := true,
      clusters := [(fixtureId "c100" 1, "cluster-a"), (fixtureId "c100" 2, "cluster-b")] },
    { name := "NTNX_REMOTE", uuid := fixtureId "acc0" 2, providerType := "nutanix_pc",
      clusters := [(fixtureId "c100" 3, "cluster-c")] },
    { name := "AWS_ACC", uuid := fixtureId "acc0" 3, providerType := "aws" },
    { name := "VMW_ACC", uuid := fixtureId "acc0" 4, providerType := "vmware" },
    { name := "AZURE_ACC", uuid := fixtureId "acc0" 5, providerType := "azure" },
    { name := "GCP_ACC", uuid := fixtureId "acc0" 6, providerType := "gcp" },
    { name := "K8S_ACC", uuid := fixtureId "acc0" 7, providerType := "k8s" },
    { name := "PE_A", uuid := fixtureId "acc0" 8, providerType := "nutanix",
      pcAccount := some (fixtureId "acc0" 1) }]
  subnets := [
    { name := "vlan.0", uuid := fixtureId "5ub0" 1, cluster := "cluster-a",
      accountUuid := fixtureId "acc0" 1, clusterUuid := fixtureId "c100" 1 },
    { name := "vlan.1", uuid := fixtureId "5ub0" 2, cluster := "cluster-a",
      accountUuid := fixtureId "acc0" 1, clusterUuid := fixtureId "c100" 1 },
    { name := "vlan.0", uuid := fixtureId "5ub0" 3, cluster := "cluster-b",
      accountUuid := fixtureId "acc0" 1, clusterUuid := fixtureId "c100" 2 },
    { name := "vlan.9", uuid := fixtureId "5ub0" 4, cluster := "cluster-a",
      accountUuid := fixtureId "acc0" 1, clusterUuid := fixtureId "c100" 1 },
    { name := "vlan.2", uuid := fixtureId "5ub0" 5, cluster := "cluster-c",
      accountUuid := fixtureId "acc0" 2, clusterUuid := fixtureId "c100" 3 }]
  images := [
    { name := "CentOS-7-cloudinit", uuid := fixtureId "1ma0" 1, imageType := "DISK_IMAGE",
      accountUuid := fixtureId "acc0" 1 },
    { name := "Windows2016", uuid := fixtureId "1ma0" 3, imageType := "DISK_IMAGE",
      accountUuid := fixtureId "acc0" 1 },
    { name := "CentOS-7-cloudinit", uuid := fixtureId "1ma0" 4, imageType := "DISK_IMAGE",
      accountUuid := fixtureId "acc0" 2 },
    { name := "SQLServer2014-x64", uuid := fixtureId "1ma0" 2, imageType := "ISO_IMAGE",
      accountUuid := fixtureId "acc0" 1 }]
  projects := [
    { name := "default", uuid := fixtureId "9r00" 1,
      accounts := [("nutanix_pc", [fixtureId "acc0" 1]), ("aws", [fixtureId "acc0" 3]),
        ("vmware", [fixtureId "acc0" 4]), ("azure", [fixtureId "acc0" 5]),
        ("gcp", [fixtureId "acc0" 6]), ("k8s", [fixtureId "acc0" 7])],
      whitelistedSubnets := [(fixtureId "acc0" 1,
        [fixtureId "5ub0" 1, fixtureId "5ub0" 2, fixtureId "5ub0" 3])] },
    { name := "proj_empty", uuid := fixtureId "9r00" 2 },
    { name := "proj_remote", uuid := fixtureId "9r00" 3,
      accounts := [("nutanix_pc", [fixtureId "acc0" 2])],
      whitelistedSubnets := [(fixtureId "acc0" 2, [fixtureId "5ub0" 5])] }]
  environments := [
    { name := "env1", uuid := fixtureId "e000" 1, projectUuid := fixtureId "9r00" 1,
      accounts := [("nutanix_pc", [{
        uuid := fixtureId "acc0" 1, name := "NTNX_LOCAL_AZ",
        subnetUuids := some [fixtureId "5ub0" 1] }])] },
    { name := "env_aws", uuid := fixtureId "e000" 2, projectUuid := fixtureId "9r00" 1,
      accounts := [("aws", [{ uuid := fixtureId "acc0" 3, name := "AWS_ACC" }])] }]
  users := [
    { name := "admin", displayName := "admin", uuid := fixtureId "0e00" 1, directory := "local" },
    { name := "alice@corp.local", displayName := "Alice", uuid := fixtureId "0e00" 2,
      directory := "corp" }]
  roles := [
    { name := "Project Admin", uuid := fixtureId "0r00" 1 },
    { name := "Developer", uuid := fixtureId "0r00" 2 }]
  directoryServices := [{ name := "corp", uuid := fixtureId "0d50" 1 }]
  userGroups := [
    { name := "cn=devs,dc=corp,dc=local", displayName := "devs", uuid := fixtureId "0e90" 1,
      directory := "corp" }]
  networkFunctionChains := [{ name := "nfc1", uuid := fixtureId "0fc0" 1 }]
  protectionPolicies := [
    { name := "policy1", uuid := fixtureId "0a90" 1, ruleName := "rule1",
      ruleUuid := fixtureId "0a91" 1, ruleExpiry := 3, ruleType := "Local",
      projectName := "default" }]

/-- Whether a field matches a wanted value; an empty wanted value matches anything. -/
def fieldMatches (wanted actual : String) : Bool := wanted.isEmpty || wanted == actual

/-- The account of a name, of a provider type when one is given. -/
def account? (c : Cache) (name : String) (providerType : String := "") : Option AccountRow :=
  c.accounts.find? fun a => a.name == name && fieldMatches providerType a.providerType

def accountById? (c : Cache) (uuid : String) : Option AccountRow :=
  c.accounts.find? (·.uuid == uuid)

/-- The subnet of a name, on a cluster and of an account when they are given. -/
def subnet? (c : Cache) (name : String) (cluster accountUuid : String := "") :
    Option SubnetRow :=
  c.subnets.find? fun s => s.name == name && fieldMatches cluster s.cluster &&
    fieldMatches accountUuid s.accountUuid

/-- The subnet of a uuid, of an account when one is given. -/
def subnetById? (c : Cache) (uuid : String) (accountUuid : String := "") : Option SubnetRow :=
  c.subnets.find? fun s => s.uuid == uuid && fieldMatches accountUuid s.accountUuid

/-- The image of a name and type known to an account. -/
def image? (c : Cache) (name imageType accountUuid : String) : Option ImageRow :=
  c.images.find? fun i => i.name == name && i.imageType == imageType &&
    i.accountUuid == accountUuid

def project? (c : Cache) (name : String) : Option ProjectRow :=
  c.projects.find? (·.name == name)

def projectById? (c : Cache) (uuid : String) : Option ProjectRow :=
  c.projects.find? (·.uuid == uuid)

/-- The environment of a name, of a project when one is given. -/
def environment? (c : Cache) (name : String) (projectUuid : String := "") :
    Option EnvironmentRow :=
  c.environments.find? fun e => e.name == name && fieldMatches projectUuid e.projectUuid

/-- The user of a name, of a directory and display name when they are given. -/
def user? (c : Cache) (name : String) (directory displayName : String := "") :
    Option PrincipalRow :=
  c.users.find? fun u => u.name == name && fieldMatches directory u.directory &&
    fieldMatches displayName u.displayName

/-- The user group of a name, of a directory and display name when they are given. -/
def userGroup? (c : Cache) (name : String) (directory displayName : String := "") :
    Option PrincipalRow :=
  c.userGroups.find? fun u => u.name == name && fieldMatches directory u.directory &&
    fieldMatches displayName u.displayName

def role? (c : Cache) (name : String) : Option NamedRow := c.roles.find? (·.name == name)

def directoryService? (c : Cache) (name : String) : Option NamedRow :=
  c.directoryServices.find? (·.name == name)

def networkFunctionChain? (c : Cache) (name : String) : Option NamedRow :=
  c.networkFunctionChains.find? (·.name == name)

/-- The protection policy of a name and project, with the rule of a name or uuid when one is
    given. -/
def protectionPolicy? (c : Cache) (name projectName : String) (ruleName ruleUuid : String := "") :
    Option PolicyRow :=
  c.protectionPolicies.find? fun p => p.name == name && p.projectName == projectName &&
    (if !ruleName.isEmpty then p.ruleName == ruleName
     else fieldMatches ruleUuid p.ruleUuid)

end Cache

end Blueprints
