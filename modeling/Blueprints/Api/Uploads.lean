import Blueprints.Api.Secrets

namespace Blueprints.Api

open Http Library Library.Entities Build

/-- The error of an upload whose entity exists already. -/
def existsError (what name : String) (noun : String) : Value :=
  errorOf (.str (what ++ " " ++ name ++ " already exists. Use --force to first delete existing " ++
    noun ++ " before create.")) (-1)

/-- Looks for an entity of the name that `filter` selects and deletes it when forced; answers
    the error that stops the upload, if any. -/
def clearName (r : Resource) (filter : String) (existing : Value) (force : Value) :
    Build (Option Value) := do
  let listed <- r.list (dictOf [("filter", .str filter)])
  if let some err := listed.error then return some err
  let response <- listed.json
  let entities <- getOr response "entities" .none
  if !entities.truthy then return none
  if !force.truthy then return some existing
  let uuid <- path! (<- subscript entities (.int 0)) ["metadata", "uuid"]
  let deleted <- r.delete uuid
  pure deleted.error

/-- The uuid of the session's project, which must exist. -/
def projectReference : Build Value := do
  let name <- contextProject
  let projects := Resource.named "ProjectAPI" "projects"
  let response <- (<- projects.list (dictOf [("filter", .str ("name==" ++ name))])).jsonOrRaise
  let entities <- getOr response "entities" .none
  if !entities.truthy then throw (.failure ("No project with name " ++ name ++ " exists"))
  let uuid <- path! (<- subscript entities (.int 0)) ["metadata", "uuid"]
  pure (dictOf [("kind", .str "project"), ("uuid", uuid), ("name", .str name)])

def delKey (d : Value) (key : String) : Build Value := do
  let (_, rest) <- pop d key
  pure rest

/-- A payload of an entity kind: its name, description and resources, with metadata. -/
def entityPayload (name desc resources metadata : Value) : Value :=
  dictOf [("spec", dictOf [("name", name), ("description", if desc.truthy then desc else .str ""),
      ("resources", resources)]),
    ("metadata", metadata), ("api_version", .str "3.0")]

/-- The metadata of a new entity of a kind. -/
def newMetadata (kind : String) (name specVersion : Value) : Value :=
  dictOf [("spec_version", if specVersion.truthy then specVersion else .int 1), ("name", name),
    ("kind", .str kind)]

def blueprintPayload (name desc resources metadata : Value) : Value :=
  let metadata := if metadata.truthy then metadata else newMetadata "blueprint" name .none
  entityPayload name desc resources metadata

/-- Takes the passwords of a Windows machine of vCenter out of a substrate. -/
def stripWindowsPasswords (path : List Value) (substrate : Value) : Strip Value := do
  let spec <- at! substrate "create_spec"
  let resources <- at! spec "resources"
  let custom <- at! resources "guest_customization"
  let path := path ++ [.str "create_spec", .str "resources", .str "guest_customization"]
  if !(<- compareValues .mem (.str "windows_data") custom) then return substrate
  let path := path ++ [.str "windows_data"]
  let mut data <- at! custom "windows_data"
  for (key, needsDomain) in [("password", false), ("domain_password", true)] do
    if needsDomain && !(<- getOr data "is_domain" (.bool false)).truthy then continue
    if !(<- compareValues .mem (.str key) data) then continue
    let (value, secret) <- popOr (<- at! data key) "value" (.str "")
    keepAt (path ++ [.str key]) value
    data <- setKey data key (<- setKey secret "attrs" unmodifiedAttrs)
  let custom <- setKey custom "windows_data" data
  setKey substrate "create_spec" (<- setKey spec "resources"
    (<- setKey resources "guest_customization" custom))

/-- The lists of a blueprint's resources whose objects keep secrets. -/
def blueprintLists : List String :=
  ["service_definition_list", "package_definition_list", "substrate_definition_list",
    "app_profile_list", "credential_definition_list"]

def uploadBlueprint (r : Resource) (name desc resources metadata force : Value) :
    Build Outcome := do
  let existing := existsError "Blueprint" name.toText "blueprint"
  if let some err <- clearName r ("name==" ++ name.toText ++ ";state!=DELETED") existing force then
    return ⟨none, some err⟩
  let (resources, secrets) <- (do
      let res <- strip resources blueprintLists
      let mut subs : List Value := []
      for (sub, i) in (<- itemsAt res "substrate_definition_list").zipIdx do
        if (<- at! sub "type").equal (.str "VMWARE_VM") &&
            (<- at! sub "os_type").equal (.str "Windows") then
          subs := subs ++ [<- stripWindowsPasswords [.str "substrate_definition_list", .int i] sub]
        else subs := subs ++ [sub]
      putItems res "substrate_definition_list" subs : Strip Value).run {}
  let payload := blueprintPayload name desc resources metadata
  let (categories, meta') <- popOr (<- at! payload "metadata") "categories" emptyDict
  let payload <- setKey payload "metadata" meta'
  let uploaded <- Call.send { method := .post, endpoint := r.base ++ "/import_json", payload }
  if uploaded.error.isSome then return uploaded
  let bp <- delKey (<- uploaded.json) "status"
  let spec <- at! bp "spec"
  let bp <- setKey bp "spec" (<- setKey spec "resources" (<- patch (<- at! spec "resources") secrets))
  let bp <- setKey bp "metadata" (<- setKey (<- at! bp "metadata") "categories" categories)
  r.update (<- path! bp ["metadata", "uuid"]) bp

/-- Takes the secrets out of the endpoints of a runbook's resources, by endpoint name. -/
def stripEndpoints (resources : Value) : Build (Value × List (Value × Secrets)) := do
  let listed <- getOr resources "endpoint_definition_list" .none
  let mut kept : List (Value × Secrets) := []
  let mut out : List Value := []
  for ep in <- iterate listed do
    let name <- getOr ep "name" .none
    let (attrs, secrets) <- (strip (<- at! ep "attrs")).run {}
    let (_, attrs) <- popOr attrs "default_credential_local_reference" .none
    kept := (kept.filter fun (k, _) => !k.equal name) ++ [(name, secrets)]
    out := out ++ [<- setKey ep "attrs" attrs]
  let resources <- match listed with
    | .list _ => setKey resources "endpoint_definition_list" (.list out)
    | _ => pure resources
  pure (resources, kept)

/-- Puts back the secrets of the endpoints of a runbook that the server answered. -/
def patchEndpoints (resources : Value) (kept : List (Value × Secrets)) : Build Value := do
  let listed <- getOr resources "endpoint_definition_list" (.list [])
  let mut out : List Value := []
  for ep in <- iterate listed do
    let name <- getOr ep "name" .none
    let some secrets := (kept.find? (·.1.equal name)).map (·.2)
      | throw (.missingKey name.repr)
    out := out ++ [<- setKey ep "attrs" (<- patch (<- at! ep "attrs") secrets)]
  match listed with
  | .list _ => setKey resources "endpoint_definition_list" (.list out)
  | _ => pure resources

/-- Sends a stripped runbook with `send`, then puts its secrets back into the answer and sends
    it again as an update. -/
def sendRunbook (r : Resource) (name desc resources specVersion : Value)
    (send : Value -> Build Outcome) : Build Outcome := do
  let (resources, secrets) <- (strip resources [] ["runbook"]).run {}
  let (resources, kept) <- stripEndpoints resources
  let metadata := newMetadata "runbook" name specVersion
  let payload := entityPayload name desc resources metadata
  let reference <- projectReference
  let payload <- setKey payload "metadata" (<- setKey metadata "project_reference" reference)
  let sent <- send payload
  if sent.error.isSome then return sent
  let rb <- delKey (<- sent.json) "status"
  let spec <- at! rb "spec"
  let res <- patch (<- at! spec "resources") secrets
  let res <- patchEndpoints res kept
  let rb <- setKey rb "spec" (<- setKey spec "resources" res)
  r.update (<- path! rb ["metadata", "uuid"]) rb

def uploadRunbook (r : Resource) (name desc resources force : Value) : Build Outcome := do
  let existing := existsError "Runbook" name.toText "runbook"
  if let some err <- clearName r ("name==" ++ name.toText ++ ";deleted==FALSE") existing force then
    return ⟨none, some err⟩
  sendRunbook r name desc resources .none fun payload =>
    Call.send { method := .post, endpoint := r.base ++ "/import_json", payload }

/-- Updates a runbook with its secrets, naming its entities by reference. -/
def updateRunbook (r : Resource) (uuid name desc resources specVersion : Value) :
    Build Outcome :=
  sendRunbook r name desc resources specVersion fun payload =>
    Call.send { method := .put, endpoint := r.item uuid ++ "/update", payload }

def uploadEndpoint (r : Resource) (name desc resources force : Value) : Build Outcome := do
  let existing := existsError "Endpoint" name.toText "blueprint"
  if let some err <- clearName r ("name==" ++ name.toText ++ ";deleted==FALSE") existing force then
    return ⟨none, some err⟩
  let (attrs, secrets) <- (strip (<- at! resources "attrs")).run {}
  let (_, attrs) <- popOr attrs "default_credential_local_reference" .none
  let resources <- setKey resources "attrs" attrs
  let metadata := newMetadata "endpoint" name .none
  let payload := entityPayload name desc resources metadata
  let reference <- projectReference
  let payload <- setKey payload "metadata" (<- setKey metadata "project_reference" reference)
  let uploaded <- Call.send { method := .post, endpoint := r.base ++ "/import_json", payload }
  if uploaded.error.isSome then return uploaded
  let ep <- delKey (<- uploaded.json) "status"
  let spec <- at! ep "spec"
  let res <- at! spec "resources"
  let res <- setKey res "attrs" (<- patch (<- at! res "attrs") secrets)
  let ep <- setKey ep "spec" (<- setKey spec "resources" res)
  r.update (<- path! ep ["metadata", "uuid"]) ep

end Blueprints.Api
