import Blueprints.Settings.Ini
import Blueprints.Text.Path

namespace Blueprints

/-- The settings of the program. -/
structure Settings where
  server : Ini.Options
  logLevel : String
  categories : Ini.Options
deriving Repr, Inhabited

/-- The variables of the process environment, by name. -/
structure Environment where
  vars : List (String × String)

namespace Environment

/-- The value of a variable that is set and not empty. -/
def get? (env : Environment) (name : String) : Option String :=
  (env.vars.lookup name).filter (!·.isEmpty)

/-- The environment that commands run in: it names a server with its credentials, the default
    project and the log level, and no location of the configuration. -/
def fixed : Environment :=
  ⟨[("CALM_DSL_PC_IP", "127.0.0.1"), ("CALM_DSL_PC_PORT", "9440"),
    ("CALM_DSL_PC_USERNAME", "admin"), ("CALM_DSL_PC_PASSWORD", "password"),
    ("CALM_DSL_DEFAULT_PROJECT", "default"), ("CALM_DSL_LOG_LEVEL", "CRITICAL")]⟩

end Environment

namespace Settings

/-- The settings file of the user's configuration directory, where settings are written unless
    another file is named. -/
def defaultFile : String := Text.homeDirMarker ++ "/.calm/config.ini"

def defaultDb : String := Text.homeDirMarker ++ "/.calm/dsl.db"

def defaultLocalDir : String := Text.homeDirMarker ++ "/.calm/.local"

/-- Entries updated by others: a key already present keeps its place and takes the new value,
    a new key comes last. -/
def update {β : Type} (base extra : List (String × β)) : List (String × β) :=
  extra.foldl (fun acc (k, v) =>
    if acc.any (·.1 == k) then acc.map fun (k', v') => if k' == k then (k', v) else (k', v')
    else acc ++ [(k, v)]) base

/-- The value of a server setting, empty when missing. -/
def serverValue (s : Settings) (key : String) : String := (s.server.lookup key).getD ""

/-- The server settings that must be given, each with what it is and the variable of the
    environment that supplies it. -/
def required : List (String × String × String) :=
  [("pc_ip", "Host IP", "CALM_DSL_PC_IP"), ("pc_port", "Host Port", "CALM_DSL_PC_PORT"),
   ("pc_username", "Host username", "CALM_DSL_PC_USERNAME"),
   ("pc_password", "Host password", "CALM_DSL_PC_PASSWORD")]

/-- The message about the first server setting that is missing or empty, if one is. -/
def missingServer? (s : Settings) : Option String :=
  (required.find? fun (key, _, _) => (s.serverValue key).isEmpty).map fun (_, what, name) =>
    what ++ " not found. Please provide it in config file or set environment variable '" ++
      name ++ "'"

/-- The options of a section of a settings file; none when the file has no such section. -/
def part (sections : List (String × Ini.Options)) (name : String) : Ini.Options :=
  (sections.lookup name).getD []

/-- The server settings that the environment gives, in the order of `required`. -/
def environmentServer (env : Environment) : Ini.Options :=
  required.filterMap fun (key, _, var) => (env.get? var).map (key, ·)

/-- The settings and the default project in force: those of the user's settings file, each server
    setting, the project and the log level overridden by its variable of the environment when
    that is set and not empty. A setting given by neither is missing, or empty. -/
def ofSources (env : Environment) (sections : List (String × Ini.Options)) : Settings × String :=
  ({ server := update (part sections "SERVER") (environmentServer env),
     logLevel := (env.get? "CALM_DSL_LOG_LEVEL").getD
       (((part sections "LOG").lookup "level").getD ""),
     categories := part sections "CATEGORIES" },
   (env.get? "CALM_DSL_DEFAULT_PROJECT").getD (((part sections "PROJECT").lookup "name").getD ""))

/-- The sections of the configuration's locations, each with its variable of the environment and
    its default. -/
def locationSections : List (String × String × String) :=
  [("CONFIG", "CALM_DSL_CONFIG_FILE_LOCATION", defaultFile),
   ("DB", "CALM_DSL_DB_LOCATION", defaultDb),
   ("LOCAL_DIR", "CALM_DSL_LOCAL_DIR_LOCATION", defaultLocalDir)]

/-- The location that a section of the init data gives. -/
def location (data : List (String × Ini.Options)) (name : String) : String :=
  ((part data name).lookup "location").getD ""

/-- Reads one location section into the init data: a section that gives no location, or an
    empty one, holds the default alone; a location that the environment names is recorded under
    the key `LOCATION`. -/
def initStep (env : Environment) (data : List (String × Ini.Options)) :
    String × String × String → List (String × Ini.Options)
  | (name, var, default) =>
    let data := if (location data name).isEmpty then
      update data [(name, [("location", default)])] else data
    match env.get? var with
    | some v => update data [(name, update (part data name) [("LOCATION", v)])]
    | none => data

/-- The locations of the configuration, read from the init file and the environment. -/
def initData (env : Environment) (init : List (String × Ini.Options)) :
    List (String × Ini.Options) :=
  locationSections.foldl (initStep env) init

/-- A settings file holding a server, a default project and a log level, with no categories. -/
def fileText (ip port username password project logLevel : String) : String :=
  "\n".intercalate
    ["[SERVER]", "pc_ip = " ++ ip, "pc_port = " ++ port, "pc_username = " ++ username,
     "pc_password = " ++ password, "", "[PROJECT]", "name = " ++ project, "", "[LOG]",
     "level = " ++ logLevel, "", "[CATEGORIES]"] ++ "\n"

/-- The settings file that setting the configuration writes: each option given (and not empty)
    in place of the value in force, and no categories. -/
def setFileText (s : Settings) (project level : String) (given : String → Option String) :
    String :=
  fileText ((given "host").getD (s.serverValue "pc_ip"))
    ((given "port").getD (s.serverValue "pc_port"))
    ((given "username").getD (s.serverValue "pc_username"))
    ((given "password").getD (s.serverValue "pc_password")) ((given "project_name").getD project)
    ((given "log_level").getD level)

/-- The settings and the default project overridden by the sections of a settings file. -/
def overlay (s : Settings) (project : String) (sections : List (String × Ini.Options)) :
    Settings × String :=
  let server := update s.server (part sections "SERVER")
  let project := ((part sections "PROJECT").lookup "name").getD project
  let logLevel := ((part sections "LOG").lookup "level").getD s.logLevel
  let categories := if (part sections "CATEGORIES").isEmpty then s.categories
    else part sections "CATEGORIES"
  ({ server, logLevel, categories }, project)

end Settings

end Blueprints
