import Blueprints.Library.Builtin
import Blueprints.Yaml.Load

namespace Blueprints.Library.Files

open Text Build

/-- What stands at a path: a file with its text, or a directory. -/
inductive Entry where
  | file (text : String)
  | dir
deriving Inhabited, BEq

/-- What stands at a path among files listed by their paths relative to a directory. -/
def entryIn (files : List (String × String)) (rel : String) : Option Entry :=
  if rel == "." then some .dir
  else match files.find? (·.1 == rel) with
    | some (_, text) => some (.file text)
    | none => if files.any (·.1.startsWith (rel ++ "/")) then some .dir else none

/-- What stands at a path: the working directory holds the files of the session, and the home
    directory holds the user's configuration directory. -/
def entryAt? (path : String) : Build (Option Entry) := do
  match relativeToWorkingDir path with
  | some rel => pure (entryIn (<- get).files rel)
  | none =>
    let a := normalizePath path
    if a == homeDirMarker || a == homeDirMarker ++ "/.calm" then pure (some .dir)
    else pure none

/-- A path with a leading `~` standing for the home directory. -/
def expandHome (p : String) : String :=
  if p == "~" then homeDirMarker
  else if p.startsWith "~/" then homeDirMarker ++ String.ofList (p.toList.drop 1)
  else p

def pathText (v : Value) : Build String :=
  match v with
  | .str s => pure s
  | v => throw (.wrongType ("expected str, bytes or os.PathLike object, not " ++ v.typeName))

/-- Reads the file at a path, which must not be a directory. -/
def readAt (path : String) (missing : Fault) : Build String := do
  match <- entryAt? path with
  | some (.file text) => pure text
  | some .dir => throw (.system "IsADirectoryError" ("[Errno 21] Is a directory: '" ++ path ++ "'"))
  | none => throw missing

/-- Reads a file named relative to a directory; a missing file is an error that names it as
    given. -/
def readFileIn (dir : String) (filename : Value) : Build String := do
  if !filename.truthy then throw (.badValue "filename not supplied")
  let name := expandHome (<- pathText filename)
  readAt (joinPath dir name) (.badValue ("file " ++ name ++ " not found"))

/-- Reads a YAML specification file named relative to the blueprint file; a missing file is an
    error that names it as given. -/
def readSpec (filename : Value) : Build Value := do
  let name <- pathText filename
  let text <- readAt (joinPath (<- get).sourceDir name) (.badValue ("file " ++ name ++ " not found"))
  match Yaml.load text with
  | .ok v => pure v
  | .error m => throw (.system "YAMLError" m)

/-- Writes a file of the working directory, in the place of the file of that path if there is
    one; a path outside the working directory is not kept. -/
def writeAt (path text : String) : Build Unit := do
  match relativeToWorkingDir path with
  | some rel =>
    modify fun s =>
      if s.files.any (·.1 == rel) then
        { s with files := s.files.map fun (p, t) => if p == rel then (p, text) else (p, t) }
      else { s with files := s.files ++ [(rel, text)] }
  | none => pure ()

/-- The directory of the user's configuration that secrets are read from. -/
def localDir : String := homeDirMarker ++ "/.calm/.local"

def dropTrailingBlanks (s : String) : String :=
  String.ofList (s.toList.reverse.dropWhile isAsciiBlank).reverse

/-- A text without its blanks at either end. -/
def trimBlanks (s : String) : String :=
  String.ofList ((s.toList.dropWhile isAsciiBlank).reverse.dropWhile isAsciiBlank).reverse

/-- A text without the given character at either end. -/
def trimChar (c : Char) (s : String) : String :=
  String.ofList ((s.toList.dropWhile (· == c)).reverse.dropWhile (· == c)).reverse

/-- Reads a secret kept in the `.local` directory beside the blueprint file, or else in the
    local directory of the configuration. -/
def readLocalFile (filename : Value) : Build String := do
  let name <- pathText filename
  let beside := joinPath ".local" name
  let dir := (<- get).sourceDir
  if (<- entryAt? (joinPath dir beside)).isSome then
    readFileIn dir (.str beside)
  else
    pure (dropTrailingBlanks (<- readFileIn "" (.str (joinPath localDir name))))

/-- The variables of the process environment. -/
def processEnvironment : List (String × String) :=
  [("HOME", homeDirMarker), ("TZ", "UTC"), ("CALM_DSL_PC_IP", "127.0.0.1"),
   ("CALM_DSL_PC_PORT", "9440"), ("CALM_DSL_PC_USERNAME", "admin"),
   ("CALM_DSL_PC_PASSWORD", "password"), ("CALM_DSL_DEFAULT_PROJECT", "default"),
   ("CALM_DSL_LOG_LEVEL", "CRITICAL")]

/-- The lines of a text, each with its line break. -/
def linesWithBreaks (s : String) : List String :=
  let parts := s.splitOn "\n"
  let n := parts.length
  (parts.zipIdx.filterMap fun (p, i) =>
    if i + 1 < n then some (p ++ "\n") else if p.isEmpty then none else some p)

/-- The setting of one line of an environment file, if it holds one. -/
def settingOf (line : String) : Option (String × String) :=
  if line.startsWith "#" || !(line.contains '=') then none
  else
    let line := trimBlanks line
    match line.splitOn "=" with
    | name :: rest =>
      let value := trimBlanks ("=".intercalate rest)
      let value := trimBlanks ((value.splitOn "#").headD "")
      some (trimBlanks name, trimChar '\'' (trimChar '"' value))
    | [] => none

/-- Puts a setting in a list of settings, keeping the place of a name already there. -/
def putSetting (acc : List (String × String)) (kv : String × String) : List (String × String) :=
  if acc.any (·.1 == kv.1) then acc.map fun (k, v) => if k == kv.1 then kv else (k, v)
  else acc ++ [kv]

/-- The environment with the settings of an environment file laid over it; a missing file is
    reported and leaves the process environment. -/
def readEnv (relpath : Value) : Build Value := do
  let rel <- pathText relpath
  let path := absolutePath (joinPath (<- get).sourceDir rel)
  let toDict (kvs : List (String × String)) : Value :=
    .dict (kvs.map fun (k, v) => (.str k, .str v))
  match <- entryAt? path with
  | none =>
    logWarning ("env file " ++ path ++ " not found.")
    pure (toDict processEnvironment)
  | some .dir => throw (.system "IsADirectoryError" ("[Errno 21] Is a directory: '" ++ path ++ "'"))
  | some (.file text) =>
    let settings := (linesWithBreaks text).filterMap settingOf
    pure (toDict (settings.foldl putSetting processEnvironment))

/-- The functions of this module, by name. -/
def builtin? (name : String) : Option Builtin :=
  match name with
  | "read_file" => some (fn "read_file" [req "filename", opt "depth" (.int 1)] fun b => do
      pure (.str (<- readFileIn (<- get).sourceDir (b.get "filename"))))
  | "read_local_file" => some (fn "read_local_file" [req "filename"] fun b => do
      pure (.str (<- readLocalFile (b.get "filename"))))
  | "read_env" => some (fn "read_env" [opt "relpath" (.str ".env")] fun b => readEnv (b.get "relpath"))
  | "file_exists" => some (fn "file_exists" [req "file_path"] fun b => do
      let p <- pathText (b.get "file_path")
      pure (.bool (<- entryAt? p).isSome))
  | _ => none

/-- The names of the functions of this module. -/
def names : List String := ["read_file", "read_local_file", "read_env", "file_exists"]

end Blueprints.Library.Files
