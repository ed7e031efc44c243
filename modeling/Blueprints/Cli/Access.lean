import Blueprints.Cli.Projects

namespace Blueprints.Cli

open Library Http Api Build

/-- The states in which a task of the server has failed. -/
def failedTaskStates : List String := ["FAILED", "ABORTED", "SUSPENDED"]

def deleteGroups (values : ParamValues) : Build Unit := do
  let _ <- serverSettings
  let names := match values.lookup "group_names" with
    | some (.tuple xs) | some (.list xs) => xs.map Value.toText
    | _ => []
  let mut deleted : List String := []
  for name in names do
    let (_, uuid?, label) := References.resolveNow (<- get).cache "Group" name "" ""
    let some uuid := uuid?
      | throw (.failure (label ++ " " ++ name ++ " not found. Please run: calm update cache"))
    let outcome <- userGroups.delete (.str uuid)
    outcome.exitOnError
    deleted := deleted ++ [uuid]
    logInfo "Polling on user-group deletion task"
    let response <- outcome.json
    let task <- path! response ["status", "execution_context", "task_uuid"]
    let state <- taskState task.toText 5
    if isOneOf state failedTaskStates then
      exitWith ("User-Group deletion task went to " ++ state.toText ++ " state")
  if !deleted.isEmpty then
    logInfo "Updating user-groups cache ..."
    modify fun s => { s with cache := { s.cache with
      userGroups := s.cache.userGroups.filter fun g => !deleted.contains g.uuid } }
    logInfo "[Done]"

end Blueprints.Cli
