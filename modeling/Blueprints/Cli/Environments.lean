import Blueprints.Cli.Projects

namespace Blueprints.Cli

open Library Http Api Build CacheSync

/-- The environment of a name among those of a project, or among all when no project is named;
    an environment that is not found ends the command. -/
def environmentNamed (name : String) (projectName : Option String) : Build Value := do
  let mut filter := "name==" ++ name
  if let some p := projectName.filter (!·.isEmpty) then
    let project <- fetchProject p
    filter := filter ++ ";project_reference==" ++ (<- path! project ["metadata", "uuid"]).toText
  let params := dictOf [("length", .int 250), ("offset", .int 0), ("filter", .str filter)]
  let res <- (<- environments.list params).jsonOrRaise
  if (<- path! res ["metadata", "total_matches"]).equal (.int 0) then
    exitWith ("Environment '" ++ name ++ "' not found")
  subscript (<- at! res "entities") (.int 0)

/-- Runs an action with the project of a name as the configured one, then restores it. -/
def withProject {α : Type} (name : String) (action : Build α) : Build α := do
  let saved := (<- get).project
  modify fun s => { s with project := name }
  let result <- action
  modify fun s => { s with project := saved }
  pure result

/-- The payload of the environment that a file defines, compiled for a project; `none` after
    logging that the file defines none. -/
def environmentOfFile (r : Runtime) (file projectName : String) : Build (Option Value) :=
  withProject projectName do
    let names <- loadFile r file
    let some (.entity env) := lastWhere names (derivesFromRoot [.environment])
      | do
        logError ("User environment not found in " ++ file)
        pure none
    pure (some (.ofJson (<- environmentFilePayload r env)))

/-- Follows a change of an environment in the cache, unless told not to. -/
def followEnvironment (noCacheUpdate : Bool) (change : Build Unit) : Build Unit := do
  if noCacheUpdate then
    logInfo "skipping environments cache update"
  else
    logInfo "Updating environments cache ..."
    change
    logInfo "[Done]"

def createEnvironment (r : Runtime) (values : ParamValues) : Build Unit := do
  let file := textValue values "env_file"
  if !file.endsWith ".py" then
    logError ("Unknown file format " ++ file)
    return
  let projectName := textValue values "project_name"
  let some payload <- environmentOfFile r file projectName | return
  let mut payload := payload
  if let some n := (textValue? values "env_name").filter (!·.isEmpty) then
    payload <- setKey payload "spec" (<- setKey (<- at! payload "spec") "name" (.str n))
    payload <- setKey payload "metadata" (<- setKey (<- at! payload "metadata") "name" (.str n))
  let _ <- serverSettings
  let (name, uuid) <- submitEnvironment payload
  logInfo "Updating project for environment configuration"
  changeProjectEnvironments projectName [] [uuid]
  logInfo "Project updated successfully"
  printJson (dictOf [("name", name), ("uuid", uuid)])
  followEnvironment (flagValue values "no_cache_update") (addEnvironment uuid.toText)

def updateEnvironment (r : Runtime) (values : ParamValues) : Build Unit := do
  let file := textValue values "env_file"
  if !file.endsWith ".py" then
    logError ("Unknown file format " ++ file)
    return
  let _ <- serverSettings
  let name := textValue values "env_name"
  let projectName := textValue values "project_name"
  let found <- withProject projectName (environmentNamed name (some projectName))
  let uuid <- path! found ["metadata", "uuid"]
  logInfo ("Fetching details of environment (uuid='" ++ uuid.toText ++ "')")
  let (_, current) <- popOr (<- (<- environments.read uuid).jsonOrRaise) "status" .none
  let some payload <- environmentOfFile r file projectName
    | throw (.exit ("User environment not found in " ++ file))
  let given <- path! payload ["spec", "resources"]
  let mut changed := current
  for key in ["substrate_definition_list", "credential_definition_list", "infra_inclusion_list"] do
    changed <- setResource changed key (<- at! given key)
  logInfo ("Updating environment '" ++ name ++ "'")
  let outcome <- environments.update uuid changed
  if let some err := outcome.error then
    logError err.toText
    throw (.exit (<- at! err "error").toText)
  let res <- outcome.json
  printJson (dictOf [("name", <- path! res ["metadata", "name"]),
    ("uuid", <- path! res ["metadata", "uuid"])])
  followEnvironment (flagValue values "no_cache_update") (refreshEnvironment uuid.toText)

def deleteEnvironment (values : ParamValues) : Build Unit := do
  let _ <- serverSettings
  let name := textValue values "environment_name"
  let projectName := textValue values "project_name"
  let found <- environmentNamed name (some projectName)
  let uuid <- path! found ["metadata", "uuid"]
  let outcome <- environments.delete uuid
  if let some err := outcome.error then raiseError err
  logInfo ("Environment " ++ name ++ " deleted")
  logInfo "Updating project for environment configuration"
  changeProjectEnvironments projectName [uuid] []
  followEnvironment (flagValue values "no_cache_update") (CacheSync.deleteEnvironment uuid.toText)

end Blueprints.Cli
