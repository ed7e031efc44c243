import Blueprints.Library.Entities

namespace Blueprints.Library.Payloads
open Build

/-- A refused payload: no payload, and the reason as its error. -/
def refusal (reason : String) : Value :=
  .tuple [.none, textDict [("error", .str reason), ("code", .int (-1))]]

/-- A payload of kind `k` holding `metadata` and `spec`, with no error. The payload class is
    unnamed, so it takes a fresh name; both fields are checked as they are set. -/
def envelope (k : Kind) (metadata spec : Value) : Build Value := do
  let cls <- makeClass k .none [] []
  let cls <- cls.set "metadata" metadata
  let cls <- cls.set "spec" spec
  pure (.tuple [.entity cls, .none])

/-- The specification of a payload for class `e`: its name, its description and the class. -/
def specOf (e : Entity) : Value :=
  textDict [("name", .str e.name), ("description", .str (e.doc.getD "")), ("resources", .entity e)]

/-- Metadata of a blueprint: those given, named after the blueprint, with the default project,
    the server's user and the categories of the settings where they name none. -/
def blueprintMetadata (r : Runtime) (metadata : Value) (name : String) : Build Value := do
  let settings <- serverSettings
  let projectName <- contextProject
  let .dict given := metadata
    | throw metadata.noItemAssignment
  let mut entries := dictPut (dictPut given "name" (.str name)) "kind" (.str "blueprint")
  if !((dictGet? entries "project_reference").getD .none).truthy then
    let project <- r.call (.builtin ["Ref.Project"]) [.str projectName] []
    entries := dictPut entries "project_reference" project
  if !((dictGet? entries "owner_reference").getD .none).truthy then
    let owner <- r.call (.builtin ["Ref.User"]) [.str (settings.serverValue "pc_username")] []
    entries := dictPut entries "owner_reference" owner
  if !((dictGet? entries "categories").getD .none).truthy then
    entries := dictPut entries "categories"
      (.dict (settings.categories.map fun (k, v) => (.str k, .str v)))
  pure (.dict (dictPut entries "kind" (.str "blueprint")))

/-- The payload of a blueprint, simple or not. -/
def blueprintPayload (r : Runtime) (bp metadata : Value) : Build Value := do
  if bp.isNone then return refusal "Given blueprint is empty."
  let some e := bp.entity?.filter (fun e => e.kind.isA .blueprint || e.kind.isA .simpleBlueprint)
    | return refusal "Given blueprint is not of type Blueprint"
  let spec := specOf e
  envelope .blueprintPayload (<- blueprintMetadata r metadata e.name) spec

/-- The payload of a decorated runbook: named after its function, holding the runbook it
    built. -/
def runbookPayload (r : Runtime) (rb : Value) : Build Value := do
  if rb.isNone then return refusal "Given runbook is empty."
  let .function f := rb | return refusal "Given runbook is not of type Runbook"
  if f.decorator == .plain then return refusal "Given runbook is not of type Runbook"
  let name := (f.field? "action_name").getD .none
  let description := (f.field? "action_description").getD .none
  let description := if description.truthy then description else .str ""
  let resources <- r.attr rb "runbook"
  let spec := textDict [("name", name), ("description", description), ("resources", resources)]
  envelope .runbookPayload
    (textDict [("spec_version", .int 1), ("kind", .str "runbook"), ("name", name)]) spec

def endpointPayload (ep : Value) : Build Value := do
  if ep.isNone then return refusal "Given endpoint is empty."
  let some e := ep.entity?.filter (·.kind.isA .endpoint)
    | return refusal "Given endpoint is not of type Endpoint"
  envelope .endpointPayload
    (textDict [("spec_version", .int 1), ("kind", .str "endpoint"), ("name", .str e.name)])
    (specOf e)

/-- The payload of an environment, in the project its metadata name or else the request's. -/
def environmentPayload (env metadata : Value) : Build Value := do
  if env.isNone then return refusal "Given environment is empty."
  let some e := env.entity?.filter (·.kind.isA .environment)
    | return refusal "Given environment is not of type Environment"
  let spec := specOf e
  let reference <- Entities.getOr metadata "project_reference" (.dict [])
  let named <- Entities.getOr reference "name" (.str "")
  let projectName <- if named.truthy then pure named.toText else contextProject
  let s <- get
  let some project := s.cache.project? projectName
    | do
      let message := "Project " ++ projectName ++ " not found."
      logError message
      throw (.exit message)
  let uuid <- Build.freshId
  let header := textDict [("spec_version", .int 1), ("kind", .str "environment"),
    ("name", .str e.name), ("uuid", .str uuid),
    ("project_reference", textDict [("kind", .str "project"), ("name", .str project.name),
      ("uuid", .str project.uuid)])]
  envelope .environmentPayload header spec

def projectPayload (p : Value) : Build Value := do
  if p.isNone then return refusal "Given project is empty."
  let some e := p.entity?.filter (·.kind.isA .project)
    | return refusal "Given project is not of type Project"
  envelope .projectPayload
    (textDict [("spec_version", .int 1), ("kind", .str "project"), ("name", .str e.name)])
    (specOf e)

def builtin? (r : Runtime) (name : String) : Option Builtin :=
  match name with
  | "create_blueprint_payload" =>
    some (fn name [req "UserBlueprint", opt "metadata" (.dict [])] fun b =>
      blueprintPayload r (b.get "UserBlueprint") (b.get "metadata"))
  | "create_runbook_payload" =>
    some (fn name [req "UserRunbook"] fun b => runbookPayload r (b.get "UserRunbook"))
  | "create_endpoint_payload" =>
    some (fn name [req "UserEndpoint"] fun b => endpointPayload (b.get "UserEndpoint"))
  | "create_environment_payload" =>
    some (fn name [req "UserEnvironment", opt "metadata" (.dict [])] fun b =>
      environmentPayload (b.get "UserEnvironment") (b.get "metadata"))
  | "create_project_payload" =>
    some (fn name [req "UserProject"] fun b => projectPayload (b.get "UserProject"))
  | _ => none

/-- The names of the namespace that this module defines. -/
def names : List String :=
  ["create_blueprint_payload", "create_runbook_payload", "create_endpoint_payload",
   "create_environment_payload", "create_project_payload"]

end Blueprints.Library.Payloads
