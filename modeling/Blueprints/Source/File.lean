import Blueprints.Source.Entities

namespace Blueprints.Source

open Library

/-- An entity of the blueprint file, by the type that writes it. -/
inductive Part where
  | service (e : Entity)
  | package (e : Entity)
  | substrate (e : Entity)
  | profile (e : Entity)
  | deployment (e : Entity)

/-- Adds an edge to a map of edges by source. -/
def addEdge (edges : List (String × List String)) (source target : String) :
    List (String × List String) :=
  assoc edges source (((lookup edges source).getD []) ++ [target])

/-- The name by which a reference, or a class, is keyed: its name, or else its class name. -/
def refKey (v : Value) : Writer String := nameOrClass v

/-- Counts each of `targets` as one more edge into it; a target that is no part is an error. -/
def countTargets (indegree : List (String × Nat)) : List String -> Writer (List (String × Nat))
  | [] => pure indegree
  | t :: ts => do
    let some n := lookup indegree t | throw (.missingKey (Text.quoted t))
    countTargets (assoc indegree t (n + 1)) ts

/-- The parts in the order of their dependencies, level by level; parts in a cycle are left out. -/
def orderParts (parts : List (String × Part)) (edges : List (String × List String)) :
    Writer (List Part) := do
  let indegree <- countTargets (parts.map fun (k, _) => (k, 0)) (edges.flatMap (·.2))
  let total := parts.length + (edges.map (·.2.length)).foldr (· + ·) 0 + 1
  pure (kahnLevels parts edges total indegree ((indegree.filter (·.2 == 0)).map (·.1))).flatten

/-- The source of a blueprint class, with `metadata` the metadata class to write after it.
    Once the credentials are written and before the entities are, `askSecrets` is given the
    local files of secrets known so far, to fill them in. -/
def blueprintFile (r : Runtime) (bp : Entity) (metadata : Option Entity)
    (askSecrets : List String -> Writer Unit := fun _ => pure ()) : Writer String := do
  let default := attrOf bp "default_cred"
  let defaultName := match default with
    | .entity e => displayName e
    | _ => ""
  let mut credTexts : List Value := []
  for c in <- iterate (attrOf bp "credentials") do
    let mut cred <- entityOf c "name"
    if !defaultName.isEmpty && displayName cred == defaultName then
      cred <- cred.set "default" (.bool true)
    credTexts := credTexts ++ [.str (<- credentialText r cred)]
  let mut parts : List (String × Part) := []
  let mut edges : List (String × List String) := []
  for s in <- iterate (attrOf bp "services") do
    let svc <- entityOf s "get_ref"
    parts := assoc parts (displayName svc) (.service svc)
    for dep in <- iterate (attrOf svc "dependencies") do
      edges := addEdge edges (<- refKey dep) (displayName svc)
  let mut imageTexts : List Value := []
  let mut images : List String := []
  for p in <- iterate (attrOf bp "packages") do
    let pkg <- entityOf p "get_ref"
    if pkg.kind == .package then
      parts := assoc parts (displayName pkg) (.package pkg)
      for dep in <- iterate (attrOf pkg "services") do
        edges := addEdge edges (<- refKey dep) (displayName pkg)
    else
      imageTexts := imageTexts ++ [.str (<- diskPackageText r pkg)]
      images := images ++ [displayName pkg]
  for s in <- iterate (attrOf bp "substrates") do
    let sub <- entityOf s "get_ref"
    parts := assoc parts (displayName sub) (.substrate sub)
  let mut deployments : List Entity := []
  for p in <- iterate (attrOf bp "profiles") do
    let prof <- entityOf p "get_ref"
    parts := assoc parts (displayName prof) (.profile prof)
    for d in <- iterate (attrOf prof "deployments") do
      deployments := deployments ++ [<- entityOf d "get_ref"]
    for d in deployments do
      edges := addEdge edges (displayName d) (displayName prof)
  for dep in deployments do
    parts := assoc parts (displayName dep) (.deployment dep)
    for p in <- iterate (attrOf dep "packages") do
      edges := addEdge edges (<- refKey p) (displayName dep)
    match attrOf dep "substrate" with
    | .none => throw (.missingAttribute "'NoneType' object has no attribute 'get_ref'")
    | s => edges := addEdge edges (<- refKey s) (displayName dep)
    for d in <- iterate (attrOf dep "dependencies") do
      edges := addEdge edges (<- refKey d) (displayName dep)
  let known <- get
  askSecrets (known.credentialFiles ++ known.secretFiles)
  let ordered <- orderParts parts edges
  let mut entityTexts : List Value := []
  for part in ordered do
    let text <- match part with
      | .service e => serviceText r e
      | .package e => packageText r e
      | .profile e => profileText r e
      | .deployment e => deploymentText r e
      | .substrate e => substrateText r e images
    entityTexts := entityTexts ++ [.str text]
  let blueprint <- blueprintText bp
  let metaText <- metadataText r metadata
  let rec' <- get
  -- the secret files are those of the credentials, then those of the secret variables
  let secrets := (rec'.credentialFiles ++ rec'.secretFiles).map Value.str
  let obj := assoc (assoc (classObj bp) "secret_files" (.list secrets)) "credentials"
    (.list credTexts)
  let obj := assoc (assoc (assoc obj "vm_images" (.list imageTexts)) "dependent_entities"
    (.list entityTexts)) "blueprint" (.str blueprint)
  fill Templates.bpFileHelper (assoc obj "metadata" metaText)

end Blueprints.Source
