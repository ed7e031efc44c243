import Blueprints.Kinds.Core
import Blueprints.Value.Operators

namespace Blueprints.Kinds

open Library Build

def itemAt (d : Value) (key : String) : Build Value := subscript d (.str key)

/-- A class made by the library constructor `ctorName` with keyword arguments. -/
def construct (r : Runtime) (ctorName : String) (kwargs : List (String × Value)) : Build Value :=
  r.call (.builtin [ctorName]) [] kwargs

def refValue (r : Runtime) (v : Value) : Build Value := do
  match v with
  | .entity e => getRef e
  | v => r.call (<- attrOfValue r v "get_ref") [] []

/-- Sets an attribute of a class held in a value, checked as assigning it would. -/
def setOn (v : Value) (key : String) (x : Value) : Build Value := do
  match v with
  | .entity e => pure (.entity (<- e.set key x))
  | v => throw (v.noAttribute key)

/-- Whether a value is a function decorated as an action. -/
def isAction (v : Value) : Bool :=
  match v with
  | .function f => f.decorator == .action
  | _ => false

/-- A dictionary value with `key` set to `x`. -/
def putItem (d : Value) (key : String) (x : Value) : Build Value := do
  match d with
  | .dict entries => pure (.dict (dictPut entries key x))
  | v => throw v.noItemAssignment

def dropItem (d : Value) (key : String) : Value :=
  match d with
  | .dict entries => .dict (dictDrop entries key)
  | v => v

def itemsOf (v : Value) : Build (List Value) := iterate v

/-- The default of parameter `name` of a decorated function, if it has the parameter. -/
def paramDefault? (f : Function) (name : String) : Option Value :=
  if f.defn.params.any (·.name == name) then
    some (((f.defaults.find? (·.1 == name)).map (·.2)).getD .none)
  else none

/-- A dictionary value that merges `extra` into `base`, later keys winning. -/
def mergeDicts (base extra : Value) : Build Value := do
  match base, extra with
  | .dict b, .dict x => pure (.dict (x.foldl (fun acc (k, v) =>
      if acc.any (·.1.equal k) then acc.map fun (k', w) => if k'.equal k then (k', v) else (k', w)
      else acc ++ [(k, v)]) b))
  | _, v => throw (.wrongType ("'" ++ v.typeName ++ "' object is not a mapping"))

/-- A copy of a specification without its `apiVersion` and `kind`. -/
def withoutHeader (spec : Value) : Value := dropItem (dropItem spec "apiVersion") "kind"

/-- What expanding a pod deployment makes, each list in order. -/
structure PodParts where
  services : List Value := []
  packages : List Value := []
  substrates : List Value := []
  publishedServices : List Value := []
  deployments : List Value := []

/-- Expands a pod deployment. Its containers come from the deployment specification; a simple
    pod deployment makes a service per container, with the actions that name the container, a
    full one gives its own container services, one per container, in order. -/
def expandPod (r : Runtime) (e : Entity) (simple : Bool) : Build PodParts := do
  let cls := Value.entity e
  let serviceSpec := withoutHeader (<- attrOfValue r cls "service_spec")
  let psOptions <- mergeDicts (textDict [("type", .str "PROVISION_K8S_SERVICE")]) serviceSpec
  let ps <- construct r "published_service"
    [("name", .str (e.name ++ "Published_Service")), ("options", psOptions)]
  let deploymentSpec <- attrOfValue r cls "deployment_spec"
  let spec <- itemAt deploymentSpec "spec"
  let template <- itemAt spec "template"
  let podSpec <- itemAt template "spec"
  let containers := match podSpec with
    | .dict entries => (dictGet? entries "containers").getD .none
    | _ => .none
  let podSpec := dropItem podSpec "containers"
  let ownServices <- if simple then pure [] else itemsOf (<- attrOfValue r cls "containers")
  if !simple then
    let count <- match containers with
      | .list xs => pure xs.length
      | v => throw (.wrongType ("object of type '" ++ v.typeName ++ "' has no len()"))
    if count != ownServices.length then
      throw (.failure "No. of container services does not match k8s deployment spec")
  let mut actionMap : List (String × List (String × Value)) := []
  for (key, value) in e.attrs do
    if let .function f := value then
      if f.decorator == .action then
        let some containerName := paramDefault? f "container_name"
          | throw (.failure ("container name not supplied action '" ++ key ++
              "' in deployment '" ++ e.name ++ "'"))
        let k := containerName.toText
        actionMap := upsert actionMap k
          ((((actionMap.find? (·.1 == k)).map (·.2)).getD []) ++ [(key, value)])
  let mut parts : PodParts := { publishedServices := [ps] }
  let mut packageRefs : List Value := []
  let mut lastName := ""
  let mut index := 0
  for container in <- itemsOf containers do
    let image := match container with
      | .dict entries => (dictGet? entries "image").getD (.str "")
      | _ => .str ""
    let pullPolicy := match container with
      | .dict entries => (dictGet? entries "imagePullPolicy").getD .none
      | _ => .none
    let container := dropItem (dropItem container "image") "imagePullPolicy"
    let containerName := String.ofList ((<- itemAt container "name").toText.toList.filter (· != '-'))
    lastName := containerName
    let mut s <- if !simple then do
        let own <- subscript (.list ownServices) (.int index)
        setOn own "container_spec" container
      else
        construct r "service" [("name", .str (e.name ++ "_" ++ containerName ++ "_Service")),
          ("container_spec", container)]
    if simple then
      if let some actions := (actionMap.find? (·.1 == containerName)).map (·.2) then
        for (name, func) in actions do s <- setOn s name func
        actionMap := actionMap.filter (·.1 != containerName)
    let imageSpec := if pullPolicy.truthy then
        textDict [("image", image), ("imagePullPolicy", pullPolicy)]
      else textDict [("image", image)]
    let p <- construct r "package" [("name", .str (e.name ++ "_" ++ containerName ++ "_Package")),
      ("image_spec", imageSpec), ("type", .str "K8S_IMAGE")]
    let p <- setOn p "services" (.list [<- refValue r s])
    packageRefs := packageRefs ++ [<- refValue r p]
    parts := { parts with services := parts.services ++ [s], packages := parts.packages ++ [p] }
    index := index + 1
  if !actionMap.isEmpty then
    let names := actionMap.map fun (k, _) => Value.str k
    throw (.failure ("Unknown containers : " ++ (Value.list names).toText ++ " provided in action"))
  let template' <- putItem template "spec" podSpec
  let sub <- construct r "substrate"
    [("name", .str (e.name ++ "_" ++ lastName ++ "_Substrate")), ("provider_type", .str "K8S_POD"),
     ("provider_spec", <- r.call (.builtin ["provider_spec"]) [template'] [])]
  let spec' := dropItem spec "template"
  let deploymentSpec' <- putItem deploymentSpec "spec" spec'
  let depOptions <- mergeDicts (textDict [("type", .str "PROVISION_K8S_DEPLOYMENT")])
    (withoutHeader deploymentSpec')
  let mut d <- construct r "deployment" [("name", .str e.name), ("options", depOptions),
    ("type", .str "K8S_DEPLOYMENT"), ("max_replicas", .str "100")]
  d <- setOn d "published_services" (.list [<- refValue r ps])
  d <- setOn d "packages" (.list packageRefs)
  d <- setOn d "substrate" (<- refValue r sub)
  d <- setOn d "dependencies" (<- attrOfValue r cls "dependencies")
  pure { parts with substrates := [sub], deployments := [d] }

/-- The expansion of a pod deployment as a dictionary of lists of classes. -/
def podDictionary (parts : PodParts) : Value :=
  textDict [("service_definition_list", .list parts.services),
    ("package_definition_list", .list parts.packages),
    ("substrate_definition_list", .list parts.substrates),
    ("published_service_definition_list", .list parts.publishedServices),
    ("deployment_definition_list", .list parts.deployments)]

/-- Marks the tasks of a fragment action as running on substrate `subName`. -/
def retargetTasks (action : Value) (subName : Value) : Build Value := do
  let runbook <- itemAt action "runbook"
  let mut tasks : List Value := []
  for task in <- itemsOf (<- itemAt runbook "task_definition_list") do
    if (<- itemAt task "target_any_local_reference").truthy then
      tasks := tasks ++ [<- putItem task "target_any_local_reference"
        (textDict [("kind", .str "app_substrate"), ("name", subName)])]
    else tasks := tasks ++ [task]
  putItem action "runbook" (<- putItem runbook "task_definition_list" (.list tasks))

/-- The full payload that a simple blueprint stands for, with the given categories. -/
def expandSimpleBlueprint (r : Runtime) (e : Entity) (categories : Value) : Build Value := do
  let cls := Value.entity e
  let deployments <- itemsOf (<- attrOfValue r cls "deployments")
  let mut pods : List Value := []
  let mut normal : List Value := []
  for dep in deployments do
    if (<- attrOfValue r dep "deployment_spec").truthy && (<- attrOfValue r dep "service_spec").truthy
    then
      let given <- attrOfValue r dep "name"
      let name <- if given.truthy then pure given else attrOfValue r dep "__name__"
      let mut pod <- makeClass .simplePodDeployment name []
        [("service_spec", <- attrOfValue r dep "service_spec"),
         ("deployment_spec", <- attrOfValue r dep "deployment_spec"),
         ("dependencies", <- attrOfValue r dep "dependencies")]
      if let .entity de := dep then
        for (key, value) in de.attrs do
          if isAction value then pod <- pod.set key value
      pods := pods ++ [.entity pod]
    else normal := normal ++ [dep]
  let e <- e.set "deployments" (.list normal)
  let cls := Value.entity e
  let mut defaultCred : Value := .none
  for cred in <- itemsOf (<- attrOfValue r cls "credentials") do
    if (<- attrOfValue r cred "default").truthy then
      defaultCred <- refValue r cred
      break
  let cdict <- getDict r cls
  let credentials <- itemAt cdict "credentials"
  let mut profileKw : List (String × Value) := [("name", .str (e.name ++ "Profile"))]
  let environments <- match e.lookup? "environments" with
    | some _ => attrOfValue r cls "environments"
    | none => pure .none
  if environments.truthy then profileKw := profileKw ++ [("environments", environments)]
  let pro <- construct r "profile" profileKw
  let mut appProfile <- getDict r pro
  appProfile <- putItem appProfile "variable_list" (<- itemAt cdict "variables")
  appProfile <- putItem appProfile "action_list" (<- itemAt cdict "action_list")
  let mut services : List Value := []
  let mut packages : List Value := []
  let mut substrates : List Value := []
  let mut published : List Value := []
  let mut deploymentDicts : List Value := []
  for sd in <- itemsOf (<- itemAt cdict "deployments") do
    let sdName := (<- itemAt sd "name").toText
    let s <- construct r "service" [("name", .str (sdName ++ "Service")),
      ("description", <- itemAt sd "description")]
    let mut sdict <- getDict r s
    sdict <- putItem sdict "variable_list" (<- itemAt sd "variable_list")
    let compulsory <- match sdict with
      | .dict entries => pure ((dictGet? entries "action_list").getD (.list []))
      | _ => pure (.list [])
    sdict := dropItem sdict "action_list"
    let mut existing : List String := []
    let mut serviceActions : List Value := []
    let mut actions : List Value := []
    for action in <- itemsOf (<- itemAt sd "action_list") do
      let name := (<- itemAt action "name").toText
      let mut action := action
      if name.startsWith "__" && name.endsWith "__" then
        match Kind.service.systemActions.find? (·.1 == name) with
        | some (_, systemName) =>
          action <- putItem action "name" (.str systemName)
          action <- putItem action "type" (.str "system")
          action <- putItem action "critical" (.bool true)
          existing := existing ++ [systemName]
          serviceActions := serviceActions ++ [action]
        | none => pure ()
      else serviceActions := serviceActions ++ [action]
      actions := actions ++ [action]
    for action in <- itemsOf compulsory do
      if !existing.contains (<- itemAt action "name").toText then
        serviceActions := serviceActions ++ [action]
    sdict <- putItem sdict "action_list" (.list serviceActions)
    let p <- construct r "package" [("name", .str (sdName ++ "Package"))]
    let p <- setOn p "services" (.list [<- refValue r s])
    let mut pdict <- getDict r p
    for action in actions do
      let name := (<- itemAt action "name").toText
      if name == "__install__" then
        pdict <- putItem pdict "options"
          (<- putItem (<- itemAt pdict "options") "install_runbook" (<- itemAt action "runbook"))
      else if name == "__uninstall__" then
        pdict <- putItem pdict "options"
          (<- putItem (<- itemAt pdict "options") "uninstall_runbook" (<- itemAt action "runbook"))
    let sub <- construct r "substrate" [("name", .str (sdName ++ "Substrate")),
      ("provider_type", <- itemAt sd "provider_type"),
      ("provider_spec", <- r.call (.builtin ["provider_spec"]) [<- itemAt sd "provider_spec"] []),
      ("readiness_probe", <- itemAt sd "readiness_probe"), ("os_type", <- itemAt sd "os_type")]
    let mut subdict <- getDict r sub
    for action in actions do
      let name := (<- itemAt action "name").toText
      match Kind.substrate.fragmentActions.find? (·.1 == name) with
      | some (_, fragmentName) =>
        let mut fragment <- putItem action "name" (.str fragmentName)
        fragment <- putItem fragment "type" (.str "fragment")
        fragment <- retargetTasks fragment (<- itemAt subdict "name")
        let list <- itemsOf (<- itemAt subdict "action_list")
        subdict <- putItem subdict "action_list" (.list (list ++ [fragment]))
      | none => pure ()
    let mut d <- construct r "deployment" [("name", .str sdName),
      ("min_replicas", <- itemAt sd "min_replicas"), ("max_replicas", <- itemAt sd "max_replicas")]
    d <- setOn d "packages" (.list [<- refValue r p])
    d <- setOn d "substrate" (<- refValue r sub)
    let mut ddict <- getDict r d
    ddict <- putItem ddict "depends_on_list" (<- itemAt sd "depends_on_list")
    services := services ++ [sdict]
    packages := packages ++ [pdict]
    substrates := substrates ++ [subdict]
    deploymentDicts := deploymentDicts ++ [ddict]
  for pod in pods do
    let .entity pe := pod | continue
    let parts <- expandPod r pe true
    for s in parts.services do services := services ++ [<- getDict r s]
    for p in parts.packages do packages := packages ++ [<- getDict r p]
    for s in parts.substrates do substrates := substrates ++ [<- getDict r s]
    for s in parts.publishedServices do published := published ++ [<- getDict r s]
    for d in parts.deployments do deploymentDicts := deploymentDicts ++ [<- getDict r d]
  let existingDeps <- itemsOf (<- itemAt appProfile "deployment_create_list")
  appProfile <- putItem appProfile "deployment_create_list" (.list (existingDeps ++ deploymentDicts))
  let mut resources : List (String × Value) := [("service_definition_list", .list services),
    ("package_definition_list", .list packages), ("substrate_definition_list", .list substrates),
    ("credential_definition_list", credentials), ("app_profile_list", .list [appProfile]),
    ("published_service_definition_list", .list published)]
  if defaultCred.truthy then
    resources := resources ++ [("default_credential_local_reference", <- getDict r defaultCred)]
  let spec := textDict [("name", .str e.name), ("description", .str (e.doc.getD "")),
    ("resources", textDict resources)]
  let metadata := textDict [("spec_version", .int 1), ("kind", .str "blueprint"),
    ("name", .str e.name), ("categories", if categories.truthy then categories else .dict [])]
  pure (textDict [("metadata", metadata), ("spec", spec)])

/-- The payload of a simple blueprint of one machine: none when it has more than one substrate;
    its substrate without readiness probe, and the blueprint marked as a VM template. -/
def expandSingleVm (r : Runtime) (e : Entity) : Build Value := do
  let bp <- expandSimpleBlueprint r e .none
  let spec <- itemAt bp "spec"
  let resources <- itemAt spec "resources"
  let subs <- itemsOf (<- itemAt resources "substrate_definition_list")
  if subs.length > 1 then return .none
  let sub <- subscript (.list subs) (.int 0)
  let sub <- putItem sub "readiness_probe" (textDict [("disable_readiness_probe", .bool true)])
  let resources <- putItem resources "substrate_definition_list" (.list (sub :: subs.drop 1))
  let spec <- putItem spec "resources" resources
  let metadata <- itemAt bp "metadata"
  let categories <- itemAt metadata "categories"
  let categories <- if categories.truthy then putItem categories "TemplateType" (.str "Vm")
    else pure (textDict [("TemplateType", .str "Vm")])
  let metadata <- putItem metadata "categories" categories
  pure (textDict [("metadata", metadata), ("spec", spec)])

/-- The classes of a blueprint that a VM profile stands for: a service, a package, a substrate
    and a profile, with the profile's actions and variables given to the class they concern. -/
def vmProfileClasses (r : Runtime) (vp : Value) : Build (Value × Value × Value × Value) := do
  let given <- attrOfValue r vp "name"
  let name <- if given.truthy then pure given.toText else pure (<- attrOfValue r vp "__name__").toText
  let s <- construct r "service" [("name", .str (name ++ "Service"))]
  let mut p <- construct r "package" [("name", .str (name ++ "Package")),
    ("services", .list [<- refValue r s])]
  let mut sub <- construct r "substrate" [("name", .str (name ++ "Substrate")),
    ("provider_type", <- attrOfValue r vp "provider_type"),
    ("provider_spec", <- attrOfValue r vp "provider_spec"),
    ("readiness_probe", <- attrOfValue r vp "readiness_probe"),
    ("os_type", <- attrOfValue r vp "os_type")]
  let dep <- construct r "deployment" [("name", .str (name ++ "Deployment")),
    ("min_replicas", <- attrOfValue r vp "min_replicas"),
    ("max_replicas", <- attrOfValue r vp "max_replicas"),
    ("packages", .list [<- refValue r p]), ("substrate", <- refValue r sub)]
  let mut profileKw : List (String × Value) := [("name", .str name), ("deployments", .list [dep])]
  let declared := match vp with
    | .entity ve => (ve.lookup? "environments").isSome
    | _ => false
  let environments <- if declared then attrOfValue r vp "environments" else pure .none
  if environments.truthy then profileKw := profileKw ++ [("environments", environments)]
  let mut pfl <- construct r "profile" profileKw
  let .entity ve := vp | return (s, p, sub, pfl)
  let mut data : List (String × Value) := []
  for klass in ve.ancestry.reverse do
    for (k, v) in klass.attrs do data := upsert data k v
  for (k, v) in data do
    if isAction v then
      if k == "__install__" || k == "__uninstall__" then p <- setOn p k v
      else if k == "__pre_create__" || k == "__post_delete__" then sub <- setOn sub k v
      else pfl <- setOn pfl k v
    else if v.isKind .variable then pfl <- setOn pfl k v
  pure (s, p, sub, pfl)

/-- The blueprint that a VM blueprint stands for. -/
def expandVmBlueprint (r : Runtime) (e : Entity) : Build Value := do
  let cls := Value.entity e
  let profiles <- itemsOf (<- attrOfValue r cls "profiles")
  let credentials <- attrOfValue r cls "credentials"
  let given <- attrOfValue r cls "name"
  let name := if given.truthy then given else .str e.name
  let some first := profiles.head?
    | exitWith "No vm profile provided for blueprint"
  let (service, _, _, _) <- vmProfileClasses r first
  let serviceRef <- refValue r service
  let mut packages : List Value := []
  let mut substrates : List Value := []
  let mut profileClasses : List Value := []
  for vp in profiles do
    let (_, p, sub, pfl) <- vmProfileClasses r vp
    let p <- setOn p "services" (.list [serviceRef])
    let mut pfl := pfl
    if let .entity pe := pfl then
      for (k, v) in pe.attrs do
        if let .function f := v then
          if f.decorator == .action then pfl <- setOn pfl k (.function (f.setField "task_target" serviceRef))
    packages := packages ++ [p]
    substrates := substrates ++ [sub]
    profileClasses := profileClasses ++ [pfl]
  construct r "blueprint" [("name", name), ("packages", .list packages),
    ("services", .list [service]), ("substrates", .list substrates),
    ("credentials", credentials), ("profiles", .list profileClasses)]

end Blueprints.Kinds
