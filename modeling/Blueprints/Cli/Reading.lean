import Blueprints.Cli.Command
import Blueprints.Cli.Prompt
import Blueprints.Text.Version

namespace Blueprints.Cli
open Build Text

/-- The absolute path of the working directory, as answers write it. -/
def workingDir : String := "<CWD>"

/-- The position of the configured log level among the levels, counted from one. -/
def logLevelIndex : Nat := 5

/-- A path of the working directory without a leading `./` or a trailing slash. -/
def cleanPath (p : String) : String :=
  let p := if p.startsWith "./" then String.ofList (p.toList.drop 2) else p
  let p := if p.startsWith (workingDir ++ "/") then String.ofList (p.toList.drop (workingDir.length + 1))
    else p
  if p.endsWith "/" && p.length > 1 then String.ofList p.toList.dropLast else p

/-- What a path of the working directory names: `some true` for a file, `some false` for a
    directory, `none` when there is nothing. -/
def pathKind? (p : String) : Build (Option Bool) := do
  let p := cleanPath p
  if p == "." || p.isEmpty || p == workingDir then return some false
  let files := (<- get).files
  if files.any (·.1 == p) then return some true
  if files.any (·.1.startsWith (p ++ "/")) then return some false
  pure none

/-- The placeholder of a parameter's value in help and errors. -/
def typeMetavar (p : Param) : Option String :=
  match p.type with
  | .choice cs =>
    let inner := "|".intercalate cs
    if p.positional && p.required then some ("\x7b" ++ inner ++ "\x7d") else some ("[" ++ inner ++ "]")
  | _ => none

def typeName : ParamType -> String
  | .text | .versioned _ => "TEXT"
  | .int => "INTEGER"
  | .float => "FLOAT"
  | .bool => "BOOLEAN"
  | .choice _ => "CHOICE"
  | .path _ fileOkay dirOkay =>
    if fileOkay && !dirOkay then "FILE" else if dirOkay && !fileOkay then "DIRECTORY" else "PATH"

def Param.optionMetavar (p : Param) : String :=
  match p.metavar with
  | some m => m
  | none => (typeMetavar p).getD (typeName p.type) ++ (if p.many then "..." else "")

/-- The placeholder of an argument: its name in capitals, in brackets when it may be left out,
    with dots when it takes the rest. -/
def Param.argumentMetavar (p : Param) : String :=
  let base := match p.metavar with
    | some m => m
    | none => (typeMetavar p).getD p.dest.toUpper
  let base := if p.required then base else "[" ++ base ++ "]"
  if p.many then base ++ "..." else base

def Param.hint (p : Param) : String :=
  if p.positional then "'" ++ p.argumentMetavar ++ "'"
  else " / ".intercalate (p.names.map quoted)

/-- An integer written as the language reads one: blanks around it, a sign, and digits with
    single underscores between them. -/
def parseInteger (s : String) : Option Int :=
  let t := s.trimAscii.toString
  let (neg, digits) := match t.toList with
    | '-' :: rest => (true, rest)
    | '+' :: rest => (false, rest)
    | cs => (false, cs)
  let groups := (String.ofList digits).splitOn "_"
  if groups.all (fun g => !g.isEmpty && g.all Char.isDigit) then
    let n : Int := (String.join groups).toNat!
    some (if neg then -n else n)
  else none

/-- A text read as a flag, the way the command line reads one. -/
def readFlag (s : String) : Except String Value :=
  let t := s.trimAscii.toString.toLower
  if ["1", "true", "t", "yes", "y", "on"].contains t then .ok (.bool true)
  else if ["0", "false", "f", "no", "n", "off"].contains t then .ok (.bool false)
  else .error (quoted s ++ " is not a valid boolean.")

/-- Converts the text given for a parameter, or says why it cannot be. -/
def convert (p : Param) (s : String) : Build (Except String Value) := do
  match p.type with
  | .text => pure (.ok (.str s))
  | .int =>
    match parseInteger s with
    | some n => pure (.ok (.int n))
    | none => pure (.error (quoted s ++ " is not a valid integer."))
  | .float =>
    match parseInteger s with
    | some n => pure (.ok (.float { mantissa := n, exponent := 0 }))
    | none => pure (.error (quoted s ++ " is not a valid float."))
  | .bool => pure (readFlag s)
  | .choice cs =>
    if cs.contains s then pure (.ok (.str s))
    else
      let listed := ", ".intercalate (cs.map quoted)
      pure (.error (quoted s ++ (if cs.length == 1 then " is not " else " is not one of ") ++
        listed ++ "."))
  | .path mustExist fileOkay dirOkay =>
    let kind := if fileOkay && !dirOkay then "File" else if dirOkay && !fileOkay then "Directory"
      else "Path"
    match <- pathKind? s with
    | none =>
      if mustExist then pure (.error (kind ++ " " ++ quoted s ++ " does not exist."))
      else pure (.ok (.str s))
    | some true =>
      if !fileOkay then pure (.error (kind ++ " " ++ quoted s ++ " is a file."))
      else pure (.ok (.str s))
    | some false =>
      if !dirOkay then pure (.error (kind ++ " '" ++ s ++ "' is a directory."))
      else pure (.ok (.str s))
  | .versioned minVersion =>
    let version := (<- get).version
    if versionLt version minVersion then
      logError ("Calm " ++ version ++ " does not support '" ++ p.dest ++
        "' option. Please upgrade server to Calm " ++ minVersion)
      throw (.exit "-1")
    pure (.ok (.str s))

/-- Converts a default value of a parameter. -/
def convertDefault (p : Param) (j : Json) : Build (Except String Value) := do
  match j with
  | .str s => convert p s
  | .arr items =>
    let mut out : Array Value := #[]
    for x in items do
      match x with
      | .str s =>
        match <- convert p s with
        | .ok v => out := out.push v
        | .error e => return .error e
      | other => out := out.push (.ofJson other)
    pure (.ok (.tuple out.toList))
  | other => pure (.ok (.ofJson other))

/-- The message for a parameter that must have a value and has none. -/
def missingMessage (p : Param) : String :=
  let what := if p.positional then "Missing argument " else "Missing option "
  let extra := match p.type with
    | .choice cs => " Choose from:\n\t" ++ ",\n\t".intercalate cs
    | _ => ""
  what ++ p.hint ++ "." ++ extra

/-- Whether a value counts as missing: none, or no values at all for a parameter that takes
    several. -/
def isMissing (v : Value) : Bool :=
  match v with
  | .none => true
  | .tuple [] => true
  | _ => false

/-- The value of a parameter that was not given: its default, or the answer to its question. -/
def defaultValue (p : Param) : Build (Except String Value) := do
  if let some q := p.prompt then
    let dflt? : Option String := match p.default with
      | .value (.str s) => some s
      | .value (.int n) => some (toString n)
      | _ => none
    let choices := match p.type with
      | .choice cs => cs
      | _ => []
    let v <- Cli.ask { text := q, default := dflt?, hide := p.hideInput, confirm := p.confirm,
                       choices } (convert p)
    return .ok v
  match p.default with
  | .none =>
    if p.flag then pure (.ok (.bool false))
    else if p.count then pure (.ok (.int 0))
    else if p.multiple || p.many then pure (.ok (.tuple []))
    else pure (.ok .none)
  | .value j => convertDefault p j
  | .workingDir => pure (.ok (.str workingDir))
  | .logLevel => pure (.ok (.int logLevelIndex))

/-- The value of a parameter from what the words gave for it. -/
def valueOf (p : Param) (given : Option Given) : Build (Except String Value) := do
  let invalid (msg : String) : Except String Value :=
    .error ("Invalid value for " ++ p.hint ++ ": " ++ msg)
  let result <- match given with
    | some (.text s) => do
      match <- convert p s with
      | .ok v => pure (.ok v)
      | .error msg => pure (invalid msg)
    | some (.texts ss) => do
      let mut out : Array Value := #[]
      for s in ss do
        match <- convert p s with
        | .ok v => out := out.push v
        | .error msg => return invalid msg
      pure (.ok (.tuple out.toList))
    | some (.switch on) => pure (.ok (.bool on))
    | some (.times n) => pure (.ok (.int n))
    | some .missing | none => do
      match <- defaultValue p with
      | .ok v => pure (.ok v)
      | .error msg => pure (invalid msg)
  match result with
  | .error e => pure (.error e)
  | .ok v =>
    if p.required && isMissing v then return .error (missingMessage p)
    if p.count && p.dest == "verbose" then
      match v with
      | .int n =>
        if n < 1 || n > 5 then return invalid "Should be atleast 1 and atmost 5"
      | _ => pure ()
    pure (.ok v)

/-- What reading the words of a command came to. -/
inductive Reading where
  | values (vs : List (String × Value)) (rest : List String)
  | help
  | version
deriving Inhabited

/-- Reads the words of a command or group: sorts them, then gives each parameter its value. A
    group read without words shows its help. -/
def readWords (node : Node) (words : List String) : Build (Except String Reading) := do
  if node.isGroup && words.isEmpty then return .ok .help
  let ps := node.params
  let st <- match sortWords ps (!node.isGroup) (2 * words.length + 2) { rargs := words } with
    | .ok st => pure st
    | .error e => return .error e.message
  let st := if node.isGroup then { st with largs := st.largs ++ st.rargs, rargs := [] }
    else bindPositional ps st
  let mut values : Array (String × Value) := #[]
  for p in processingOrder ps st.order do
    let given : Option Given := (st.given.find? (·.1 == p.dest)).map (·.2)
    match given with
    | some (.switch true) =>
      if p.dest == "help" then return .ok .help
      if p.dest == "version" then return .ok .version
    | _ => pure ()
    match <- valueOf p given with
    | .error e => return .error e
    | .ok v => if p.exposed then values := values.push (p.dest, v)
  if !node.isGroup && !st.largs.isEmpty then
    let n := st.largs.length
    return .error ((if n == 1 then "Got unexpected extra argument (" else
      "Got unexpected extra arguments (") ++ " ".intercalate st.largs ++ ")")
  pure (.ok (.values values.toList st.largs))

/-- The words after the command path in its usage line. -/
def usagePieces (node : Node) : String :=
  let args := (node.params.filter (·.positional)).map Param.argumentMetavar
  let pieces := ["[OPTIONS]"] ++ args ++ (if node.isGroup then ["COMMAND [ARGS]..."] else [])
  " ".intercalate pieces

end Blueprints.Cli
