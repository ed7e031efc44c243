import Blueprints.Cli.Cache

namespace Blueprints.Cli

open Library Build Text Http Files

/-- The sections of a settings file, with their references resolved. A file that cannot be read
    holds no sections. -/
def settingsFileSections (path : String) : Build (List (String × Ini.Options)) := do
  let text := match <- entryAt? (absolutePath path) with
    | some (.file t) => t
    | _ => ""
  match Ini.read path text >>= Ini.Document.resolved with
  | .ok sections => pure sections
  | .error e => throw (.system e.kind e.message)

/-- Puts a settings file named on the command line in force over the settings. -/
def applySettingsFile (path : String) : Build Unit := do
  let sections <- settingsFileSections path
  let s <- get
  let (settings, project) := s.settings.overlay s.project sections
  set { s with settings, project, namedSettingsFile := some path }

/-- The log level of the settings. When none is named, a warning says so and `INFO` is taken
    from then on. -/
def contextLogLevel : Build String := do
  let level := (<- get).settings.logLevel
  if !level.isEmpty then return level
  logWarning ("Default log-level not found in config file or environment(" ++
    "'CALM_DSL_LOG_LEVEL'). Setting it to 'INFO' level")
  modify fun s => { s with settings := { s.settings with logLevel := "INFO" } }
  pure "INFO"

def showSettings : Build Unit := do
  let settings <- serverSettings
  let project <- contextProject
  let level <- contextLogLevel
  print (Settings.fileText (settings.serverValue "pc_ip") (settings.serverValue "pc_port")
    (settings.serverValue "pc_username") "xxxxxxxx" project level ++ "\n")

/-- Checks the server: its management service answers with its state, and the project exists
    on it. -/
def verifyServer (project : String) : Build Unit := do
  logInfo "Checking if Calm is enabled on Server"
  let outcome <- (Api.Resource.named "ResourceAPI" "services/nucalm/status").read .none
  if let some err := outcome.error then
    print "[Fail]\n"
    raiseError err
  let state <- at! (<- outcome.json) "service_enablement_status"
  logInfo state.toText
  logInfo "Verifying the project details"
  let projects := Api.Resource.named "ProjectAPI" "projects"
  let known <- projects.nameUuidMap (Api.dictOf [("filter", .str ("name==" ++ project))])
  if !known.truthy then exitWith ("Project '" ++ project ++ "' not found !!!")
  logInfo ("Project '" ++ project ++ "' verified successfully")

/-- Writes a settings file, which the user's configuration names from then on; the settings of
    the environment are in force again. -/
def writeSettings (file text : String) : Build Unit := do
  writeAt (absolutePath file) text
  modify fun s => { s with settingsFile := file }

/-- Puts in force again the settings of the environment over those of the user's settings
    file, as after that file was written. -/
def resetSettings : Build Unit := do
  let s <- get
  let sections <- settingsFileSections s.settingsFile
  let (settings, project) := Settings.ofSources s.environment sections
  set { s with settings, project }

/-- A text value given on the command line, or the one asked for. -/
def givenOr (values : ParamValues) (key : String) (ask : Build String) :
    Build String :=
  match textValue? values key with
  | some v => if v.isEmpty then ask else pure v
  | none => ask

def setSettings (values : ParamValues) : Build Unit := do
  let settings <- serverSettings
  let given (key : String) : Option String := (textValue? values key).filter (!·.isEmpty)
  let current := settings.serverValue "pc_ip"
  let changed := match given "host" with
    | some h => h != current
    | none => false
  let configured <- contextProject
  verifyServer ((given "project_name").getD configured)
  let level <- contextLogLevel
  let s <- get
  let file := (given "config_file").getD (s.namedSettingsFile.getD s.settingsFile)
  writeSettings file (settings.setFileText configured level given)
  logInfo "Configuration changed successfully"
  resetSettings
  if changed then syncCache

def startingHint : String :=
  "\nHINT: To get started, follow the 3 steps below:\n" ++
  "1. Initialize an example blueprint DSL: calm init bp\n" ++
  "2. Create and validate the blueprint: calm create bp --file HelloBlueprint/blueprint.py\n" ++
  "3. Start an application using the blueprint: calm launch bp Hello --app_name HelloApp01 -i\n" ++
  "\nKeep Calm and DSL On!\n\n"

def initSettings (values : ParamValues) : Build Unit := do
  let keys := ["ip", "port", "username", "password", "project_name"]
  if keys.any fun k => ((textValue? values k).getD "").isEmpty then
    print "Please provide Calm DSL settings:\n\n"
  let host <- givenOr values "ip" (askText { text := "Prism Central IP", default := some "" })
  let port <- givenOr values "port" (askText { text := "Port", default := some "9440" })
  let username <- givenOr values "username" (askText { text := "Username", default := some "admin" })
  let password <- givenOr values "password"
    (askText { text := "Password", default := some "", hide := true })
  let project <- givenOr values "project_name" (askText { text := "Project", default := some "default" })
  let file := (textValue? values "config_file").filter (!·.isEmpty) |>.getD Settings.defaultFile
  verifyServer project
  writeSettings file (Settings.fileText host port username password project "INFO")
  logInfo "Updating context for using latest config file data"
  resetSettings
  logInfo "Creating local database"
  modify fun s => { s with cache := {}, version := "", secretStore := {} }
  syncCache
  print startingHint

end Blueprints.Cli
