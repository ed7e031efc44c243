import Blueprints.Source.Machines

namespace Blueprints.Source

open Library Text Templates

/-- The attributes of a class for its template: its own, its class name and its documentation. -/
def classObj (e : Entity) : List (String × Value) :=
  assoc (assoc (userAttrs e) "name" (.str e.name)) "description" (.str (e.doc.getD ""))

/-- Adds the display name of a class when it differs from the class name, and records the class
    name under the display name for the entity type. -/
def withDisplayName (entityType : String) (e : Entity) (obj : List (String × Value)) :
    Writer (List (String × Value)) := do
  let displayed := displayName e
  nameClass entityType displayed e.name
  pure (if displayed != e.name then assoc obj "gui_display_name" (.str displayed) else obj)

/-- The entities in a list attribute of a class's own attributes. -/
def entitiesIn (obj : List (String × Value)) (key : String) : Writer (List Value) :=
  match lookup obj key with
  | some v => iterate v
  | none => pure []

def entityOf (v : Value) (what : String) : Writer Entity :=
  match v with
  | .entity e => pure e
  | v => throw (v.noAttribute what)

/-- A credential written as source; its secret is read from an empty local file. -/
def credentialText (r : Runtime) (cred : Entity) : Writer String := do
  let mut obj := assoc (userAttrs cred) "description" (match cred.doc with
    | some d => .str d
    | none => .none)
  let varName := "BP_CRED_" ++ validIdentifier cred.name
  let some credType := lookup obj "type" | throw (.missingKey "'type'")
  let fileName := varName ++ "_" ++ credType.toText
  writeFile (".local/" ++ fileName) ""
  obj := assoc (assoc obj "var_name" (.str varName)) "value" (.str fileName)
  if let some editables := lookup obj "editables" then
    if editables.truthy then obj := assoc obj "editables" (<- dictOf r editables)
  let some credName := lookup obj "name" | throw (.missingKey "'name'")
  modify fun rec => { rec with
    credentialVars := assoc rec.credentialVars credName.toText varName
    credentialFiles := rec.credentialFiles ++ [fileName] }
  fill credential obj

/-- The system actions of services, by the names their payloads give them. -/
def serviceSystemActions : List (String × String) :=
  [("action_create", "__create__"), ("action_delete", "__delete__"),
   ("action_start", "__start__"), ("action_stop", "__stop__"),
   ("action_restart", "__restart__"), ("action_soft_delete", "__soft_delete__")]

/-- The system actions of substrates, by the names their payloads give them. -/
def substrateSystemActions : List (String × String) :=
  [("pre_action_create", "__pre_create__"), ("post_action_delete", "__post_delete__")]

/-- The class name of an action and the name it displays: a system action is written under its
    system name. -/
def actionNames (systemActions : List (String × String)) (action : Entity) : String × String :=
  match lookup systemActions action.name with
  | some system => (system, system)
  | none => (action.name, displayName action)

/-- The variables of an entity written as source, in order. -/
def variableTexts (r : Runtime) (obj : List (String × Value)) (context : String) : Writer (List Value) := do
  (<- entitiesIn obj "variables").mapM fun v => do
    pure (.str (<- variableText r (<- entityOf v "name") context))

def serviceText (r : Runtime) (svc : Entity) : Writer String := do
  let context := "Service_" ++ svc.name
  let mut obj <- withDisplayName "Service" svc (classObj svc)
  let mut depends : List String := []
  for dep in <- entitiesIn obj "dependencies" do
    depends := depends ++ [(<- refText dep).1]
  let declaredVars <- variableTexts r obj context
  let actions <- (<- entitiesIn obj "actions").mapM (entityOf · "runbook")
  for a in actions do
    let (name, _) := actionNames serviceSystemActions a
    let runbook <- entityOf (attrOf a "runbook") "name"
    nameRunbook (displayName runbook) name
  let mut actionTexts : List Value := []
  for a in actions do
    let (name, displayed) := actionNames serviceSystemActions a
    let text <- actionText r a name displayed context []
    if !text.isEmpty then actionTexts := actionTexts ++ [.str text]
  obj := assoc (assoc (assoc obj "dependencies" (.str (",".intercalate depends))) "variables"
    (.list declaredVars)) "actions" (.list actionTexts)
  fill service obj

/-- A package written as source, with its install and uninstall actions. -/
def packageText (r : Runtime) (pkg : Entity) : Writer String := do
  let context := "Package_" ++ pkg.name
  let mut obj <- withDisplayName "Package" pkg (classObj pkg)
  let mut services : List String := []
  for s in <- entitiesIn obj "services" do
    services := services ++ [(<- refText s).1]
  let declaredVars <- variableTexts r obj context
  let mut actionTexts : List Value := []
  for key in ["__install__", "__uninstall__"] do
    if let some a := pkg.lookup? key then
      actionTexts := actionTexts ++
        [.str (<- actionText r (<- entityOf a "runbook") key key context [])]
  obj := assoc (assoc (assoc obj "services" (.str (",".intercalate services))) "variables"
    (.list declaredVars)) "actions" (.list actionTexts)
  fill package obj

/-- A downloadable image written as source. -/
def diskPackageText (r : Runtime) (pkg : Entity) : Writer String := do
  nameClass "Package" (displayName pkg) pkg.name
  let specs <- kindSpecs pkg.kind
  let mut data : List (Value × Value) := []
  for (k, v) in <- allAttrs r pkg do
    let key := ((specs.find? (·.name == k)).map (·.apiName)).getD k
    let v' <- match v with
      | .record shape fields => recordDict shape fields
      | v => pure v
    if !data.any (·.1.isText key) then data := data ++ [(.str key, v')]
  if (dictGet? data "name").any (·.isText "") then data := dictPut data "name" (.str pkg.name)
  if (dictGet? data "description").any (·.isText "") then
    data := dictPut data "description" (.str (pkg.doc.getD ""))
  let some description := dictGet? data "description" | throw (.missingKey "'description'")
  let description <- match description with
    | .str d => pure (escapeBreaks d)
    | v => throw (v.noAttribute "replace")
  fill vmDiskPackage [("name", .str pkg.name), ("description", .str description),
    ("config", .dict (dictDrop data "description"))]

/-- The expression that reads a provider's specification back from its file. -/
def specReader (spec : Value) (fileName providerType : String) (images : List String) :
    Writer (String × Value) := do
  let location := "os.path.join('specs', '" ++ fileName ++ "')"
  if providerType == "VMWARE_VM" then
    let template := validIdentifier (<- item spec "template").toText
    if images.contains template then
      let spec' := Value.dict (dictPut (<- entries spec) "template" (.str ""))
      return ("read_vmw_spec(" ++ location ++ ", vm_template=" ++ template ++ ")", spec')
    return ("read_vmw_spec(" ++ location ++ ")", spec)
  pure ("read_provider_spec(" ++ location ++ ")", spec)

def plainJson (v : Value) : Writer Json :=
  match v.toJson with
  | .ok j => pure j
  | .error f => throw f

/-- A substrate written as source; `images` are the downloadable images of the blueprint. -/
def substrateText (r : Runtime) (sub : Entity) (images : List String) : Writer String := do
  let context := "Substrate_" ++ sub.name
  let mut obj <- withDisplayName "Substrate" sub (classObj sub)
  let editables := (lookup obj "provider_spec_editables").getD (.dict [])
  let createEditables <- getOr editables "create_spec" (.dict [])
  let probeEditables <- getOr editables "readiness_probe" (.dict [])
  let mut editableNames : List Value := []
  for (k, v) in <- entries probeEditables do
    if v.truthy then editableNames := editableNames ++ [k]
  let some probe := lookup obj "readiness_probe" | throw (.missingKey "'readiness_probe'")
  obj := assoc obj "readiness_probe"
    (.str (<- probeText (<- entityOf probe "editables_list") editableNames))
  if createEditables.truthy then
    let fileName := sub.name ++ "_create_spec_editables.yaml"
    obj := assoc obj "provider_spec_editables"
      (.str ("read_spec(os.path.join('specs', '" ++ fileName ++ "'))"))
    writeFile ("specs/" ++ fileName) (Yaml.render specLayout (<- plainJson createEditables))
  let spec <- r.attr (.entity sub) "provider_spec"
  let providerType := (<- r.attr (.entity sub) "provider_type").toText
  let mut machine : Option String := none
  if providerType == "AHV_VM" then
    let vm <- entityOf spec "resources"
    let res <- entityOf (attrOf vm "resources") "boot_config"
    let boot := (res.lookup? "boot_config").getD (.dict [])
    obj := assoc obj "provider_spec" (.str vm.name)
    machine := some (<- machineText r vm boot)
  else
    let fileName := sub.name ++ "_provider_spec.yaml"
    let (reader, spec') <- specReader spec fileName providerType images
    obj := assoc obj "provider_spec" (.str reader)
    writeFile ("specs/" ++ fileName) (Yaml.render specLayout (<- plainJson spec'))
  let mut actionTexts : List Value := []
  for a in <- entitiesIn obj "actions" do
    let a <- entityOf a "runbook"
    let (name, displayed) := actionNames substrateSystemActions a
    actionTexts := actionTexts ++ [.str (<- actionText r a name displayed context [])]
  obj := assoc obj "actions" (.list actionTexts)
  let text <- fill Templates.substrate obj
  pure (match machine with
    | some m => Template.strip (m ++ "\n" ++ text)
    | none => text)

def deploymentText (r : Runtime) (dep : Entity) : Writer String := do
  let mut obj <- withDisplayName "Deployment" dep (classObj dep)
  let mut depends : List String := []
  for d in <- entitiesIn obj "dependencies" do
    depends := depends ++ [(<- refText d).1]
  let substrate := attrOf dep "substrate"
  if substrate.truthy then obj := assoc obj "substrate" (.str (<- refText substrate).1)
  let mut packages : List String := []
  for p in <- entitiesIn obj "packages" do
    packages := packages ++ [(<- refText p).1]
  obj := assoc (assoc obj "packages" (.str (", ".intercalate packages))) "dependencies"
    (.str (",".intercalate depends))
  if let some editables := lookup obj "editables" then
    if editables.truthy then obj := assoc obj "editables" (<- dictOf r editables)
  fill deployment obj

/-- The first item of a list attribute of a configuration. -/
def firstOf (obj : List (String × Value)) (key : String) : Writer Value := do
  let some v := lookup obj key | throw (.missingKey (quoted key))
  match <- iterate v with
  | x :: _ => pure x
  | [] => throw (.outOfRange "list index out of range")

/-- The name of the target of a configuration's attributes, made an identifier. -/
def configTarget (attrs : Value) : Writer String := do
  let target <- item attrs "target_any_local_reference"
  let name <- match target with
    | .entity e => pure (attrOf e "name")
    | t => item t "name"
  pure (validIdentifier name.toText)

/-- A restore configuration of a profile written as source. -/
def restoreText (config : Entity) : Writer String := do
  let obj := userAttrs config
  let given := (lookup obj "name").getD .none
  let attrs <- firstOf obj "attrs_list"
  fill restoreConfig [("name", if given.truthy then given else .str config.name),
    ("target", .str (<- configTarget attrs)),
    ("delete_vm_post_restore", <- item attrs "delete_vm_post_restore")]

/-- A snapshot configuration of a profile written as source. -/
def snapshotText (config : Entity) : Writer String := do
  let obj := userAttrs config
  let given := (lookup obj "name").getD .none
  let restore <- firstOf obj "config_references"
  let restoreName <- match restore with
    | .entity e => pure (attrOf e "name").toText
    | v => throw (v.noAttribute "name")
  let some (_, localName) := lookup (<- get).configs restoreName
    | throw (.missingKey (quoted restoreName))
  let attrs <- firstOf obj "attrs_list"
  let mut out : List (String × Value) := [("name", if given.truthy then given else .str config.name),
    ("restore_config", .str localName), ("target", .str (<- configTarget attrs)),
    ("num_of_replicas", <- item attrs "num_of_replicas")]
  let policy <- getOr attrs "app_protection_policy_reference" .none
  if policy.truthy then out := out ++ [("policy", <- item policy "name")]
  let rule <- getOr attrs "app_protection_rule_reference" .none
  if rule.truthy then out := out ++ [("rule", <- item rule "name")]
  fill snapshotConfig out

/-- Records the names under which a profile's configuration is known. -/
def nameConfig (profile : String) (list : String) (index : Nat) (config : Entity) :
    Writer Unit := do
  let key := (attrOf config "name").toText
  let global := profile ++ "." ++ list ++ "[" ++ toString index ++ "]"
  let localName := list ++ "[" ++ toString index ++ "]"
  modify fun rec => { rec with configs := assoc rec.configs key (global, localName) }

def profileText (r : Runtime) (prof : Entity) : Writer String := do
  let context := "Profile_" ++ prof.name
  let mut obj <- withDisplayName "Profile" prof (classObj prof)
  let mut restores : List String := []
  let mut index := 0
  for c in <- entitiesIn obj "restore_configs" do
    let c <- entityOf c "name"
    nameConfig prof.name "restore_configs" index c
    restores := restores ++ [<- restoreText c]
    index := index + 1
  let mut snapshots : List String := []
  index := 0
  for c in <- entitiesIn obj "snapshot_configs" do
    let c <- entityOf c "name"
    nameConfig prof.name "snapshot_configs" index c
    snapshots := snapshots ++ [<- snapshotText c]
    index := index + 1
  index := 0
  for c in <- entitiesIn obj "update_configs" do
    let c <- entityOf c "name"
    nameConfig prof.name "update_configs" index c
    throw (.unboundName "name 'render_update_config_template' is not defined")
  let mut actionTexts : List Value := []
  for a in <- entitiesIn obj "actions" do
    let a <- entityOf a "runbook"
    actionTexts := actionTexts ++
      [.str (<- actionText r a a.name (displayName a) context (<- get).configs)]
  let mut deployments : List String := []
  for d in <- entitiesIn obj "deployments" do
    deployments := deployments ++ [(<- entityOf d "__name__").name]
  let declaredVars <- variableTexts r obj context
  obj := assoc obj "variables" (.list declaredVars)
  obj := assoc obj "deployments" (.str (", ".intercalate deployments))
  obj := assoc obj "actions" (.list actionTexts)
  obj := assoc obj "restore_configs" (.str (", ".intercalate restores))
  obj := assoc obj "snapshot_configs" (.str (", ".intercalate snapshots))
  fill Templates.profile obj

/-- The blueprint class written as source, listing its entities by class name. -/
def blueprintText (bp : Entity) : Writer String := do
  let mut obj := classObj bp
  let names (key : String) : Writer String := do
    let mut out : List String := []
    for v in <- iterate (attrOf bp key) do
      out := out ++ [(<- entityOf v "__name__").name]
    pure (", ".intercalate out)
  let mut creds : List String := []
  for c in <- iterate (attrOf bp "credentials") do
    creds := creds ++ [<- credentialVar (<- nameOrClass c)]
  obj := assoc obj "services" (.str (<- names "services"))
  obj := assoc obj "packages" (.str (<- names "packages"))
  obj := assoc obj "substrates" (.str (<- names "substrates"))
  obj := assoc obj "profiles" (.str (<- names "profiles"))
  obj := assoc obj "credentials" (.str (", ".intercalate creds))
  fill blueprint obj

/-- The metadata of a blueprint written as source: nothing without metadata, and the empty
    text when it has no categories. -/
def metadataText (r : Runtime) (metadata : Option Entity) : Writer Value := do
  let some m := metadata | return .none
  let data <- dictOf r (.entity m)
  let categories <- getOr data "categories" .none
  if !categories.truthy then return .str ""
  .str <$> fill Templates.metadata [("categories", categories)]

end Blueprints.Source
