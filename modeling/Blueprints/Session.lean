import Blueprints.Fault
import Blueprints.Store.Cache
import Blueprints.Http.Server
import Blueprints.Settings.Basic
import Blueprints.Store.Secret

namespace Blueprints

/-- How much a logged message matters. -/
inductive Level where
  | info | warning | error
deriving DecidableEq, Repr, Inhabited

/-- The name of a level, as log lines show it. -/
def Level.name : Level -> String
  | .info => "INFO"
  | .warning => "WARNING"
  | .error => "ERROR"

/-- The state of one request. -/
structure Session where
  environment : Environment := Environment.fixed
  idCount : Nat := 0
  log : Array (Level × String) := #[]
  output : String := ""
  input : String := ""
  project : String := (Settings.ofSources environment []).2
  version : String := "3.4.0"
  metadata : Json := .obj []
  cache : Cache := Cache.fixture
  files : List (String × String) := []
  sourceDir : String := "<CWD>"
  strictNames : Bool := false
  ranFile : Bool := false
  globals : List (String × Value) := []
  displayMap : Json :=
    .obj [("Service", .obj []), ("Package", .obj []), ("Deployment", .obj []),
      ("Profile", .obj []), ("Substrate", .obj [])]
  server : Http.Server := {}
  sent : Array Http.Request := #[]
  settings : Settings := (Settings.ofSources environment []).1
  secretStore : SecretStore Crypto.Sealed := {}
  settingsFile : String := Settings.location (Settings.initData environment []) "CONFIG"
  namedSettingsFile : Option String := none
deriving Inhabited

/-- A computation of the library within a session. -/
abbrev Build := ExceptT Fault (StateM Session)

namespace Build

def uuidText (n : Nat) : String :=
  let hex := String.ofList (Nat.toDigits 16 n)
  String.ofList (List.replicate (8 - hex.length) '0') ++ hex ++ "-0000-0000-0000-000000000000"

def freshId : Build String := do
  let s <- get
  let n := s.idCount + 1
  set { s with idCount := n }
  pure (uuidText n)

/-- The first eight characters of the next unique identifier. -/
def freshShort : Build String := do
  pure (String.ofList ((<- freshId).toList.take 8))

/-- The last ten characters of the next unique identifier. -/
def freshTail : Build String := do
  let t := (<- freshId).toList
  pure (String.ofList (t.drop (t.length - 10)))

def logError (msg : String) : Build Unit :=
  modify fun s => { s with log := s.log.push (.error, msg) }

def logWarning (msg : String) : Build Unit :=
  modify fun s => { s with log := s.log.push (.warning, msg) }

/-- Records a message of information in the log. -/
def logInfo (msg : String) : Build Unit :=
  modify fun s => { s with log := s.log.push (.info, msg) }

def print (text : String) : Build Unit :=
  modify fun s => { s with output := s.output ++ text }

/-- Logs an error message and ends the program with status `-1`. -/
def exitWith {α : Type} (msg : String) : Build α := do
  logError msg
  throw (.exit "-1")

/-- The settings of the server, which must all be given: the first that is missing or empty is
    an error. -/
def serverSettings : Build Settings := do
  let settings := (<- get).settings
  match settings.missingServer? with
  | some msg => exitWith msg
  | none => pure settings

/-- The default project. When none is named, a warning says so and `default` is taken from
    then on. -/
def contextProject : Build String := do
  let project := (<- get).project
  if !project.isEmpty then return project
  logWarning ("Default project not found in config file or environment(" ++
    "'CALM_DSL_DEFAULT_PROJECT' variable). Setting it to 'default' project")
  modify fun s => { s with project := "default" }
  pure "default"

/-- The value bound to a name of the request. -/
def global? (name : String) : Build (Option Value) := do
  pure (((<- get).globals.find? (·.1 == name)).map (·.2))

/-- The text of a file of the working directory, if there is one at that path. -/
def readFile? (path : String) : Build (Option String) := do
  let clean := if path.startsWith "./" then String.ofList (path.toList.drop 2) else path
  pure (((<- get).files.find? (·.1 == clean)).map (·.2))

/-- The text of a file that a blueprint file names: a missing file is an error. -/
def readFile (path : String) : Build String := do
  if path.isEmpty then throw (.badValue "filename not supplied")
  match <- readFile? path with
  | some text => pure text
  | none => throw (.badValue ("file " ++ path ++ " not found"))

/-- Binds a name of the request; a name bound again keeps its place. -/
def bindGlobal (name : String) (v : Value) : Build Unit :=
  modify fun s =>
    if s.globals.any (·.1 == name) then
      { s with globals := s.globals.map fun (k, w) => if k == name then (k, v) else (k, w) }
    else { s with globals := s.globals ++ [(name, v)] }

end Build

end Blueprints
