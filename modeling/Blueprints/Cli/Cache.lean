import Blueprints.Store.Sync
import Blueprints.Cli.Compile

namespace Blueprints.Cli
open Build

/-- The present, as the clock of the session holds it still. -/
def presentTime : String := "2024-01-01 00:00:00"

/-- Text in the colour that messages highlight names with. -/
def highlight (text : String) : String := "\x1b[34m\x1b[22m" ++ text ++ "\x1b[0m"

/-- Shows tables of the cache, each under its name. -/
def showTables (tables : List CacheTable) : Build Unit := do
  for t in tables do
    print ("\n" ++ t.name.toUpper ++ "\n")
    print (t.display (<- get).cache)

/-- The warning about a table that the cache's version does not have. -/
def unknownTable (name : String) : String :=
  "Invalid cache_type ('['" ++ name ++ "']') provided"

/-- Copies the whole cache from the server: the tables of the server's version, read afresh,
    with a dot for each table copied, the versions first. -/
def syncCache : Build Unit := do
  let serverVersion <- CacheSync.serverVersion
  logInfo "Updating cache"
  CacheSync.syncVersions
  print "."
  for t in CacheTable.available serverVersion do
    t.sync
    print "."
  print " [Done]\n"

/-- Copies some tables from the server, in the order given; a table that the server's version
    does not have is skipped with a warning that names all the tables asked for. -/
def syncTables (tables : List CacheTable) : Build Unit := do
  let available := CacheTable.available (<- get).version
  for t in tables do
    if available.contains t then t.sync
    else logWarning ("Invalid cache_type (" ++
      (Value.list (tables.map fun t => .str t.name)).repr ++ ") provided")

def updateCache (values : ParamValues) : Build Unit := do
  let version := (<- get).version
  match textValue? values "entity" with
  | some name =>
    match (CacheTable.available version).find? (·.name == name) with
    | some t =>
      t.sync
      print (t.display (<- get).cache)
    | none =>
      logWarning (unknownTable name)
      logWarning (unknownTable name)
  | none =>
    syncCache
    showTables (CacheTable.available version)
  logInfo (highlight ("Cache updated at " ++ presentTime))

def showCache : Build Unit := do
  showTables (CacheTable.available (<- get).version)

def clearCache : Build Unit := do
  modify fun s => { s with cache := {}, version := "" }
  logInfo (highlight ("Cache cleared at " ++ presentTime))

end Blueprints.Cli
