import Blueprints.Cli.LibraryTasks

namespace Blueprints.Cli

open Library Http Api Build

def createJob (r : Runtime) (values : ParamValues) : Build Unit := do
  let file := textValue values "job_file"
  if !file.endsWith ".py" then
    logError ("Unknown file format " ++ file)
    return
  let names <- loadFile r file
  let some _ := lastWhere names (derivesFromRoot [.job])
    | do
      logError ("Job not found in " ++ file)
      logError ("User job not found in " ++ file)
  throw (.unsupported "creating a job")

end Blueprints.Cli
