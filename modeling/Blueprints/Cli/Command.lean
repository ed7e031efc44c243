import Blueprints.Session
import Blueprints.Value.Text
import Blueprints.Text.Similar

namespace Blueprints.Cli
open Text

/-- The values of a command's parameters, by name. -/
abbrev ParamValues := List (String × Value)

/-- How the text given for a parameter becomes its value. -/
inductive ParamType where
  | text
  | int
  | float
  | bool
  | choice (choices : List String)
  | path (mustExist fileOkay dirOkay : Bool)
  | versioned (minVersion : String)
deriving Repr, Inhabited, BEq

/-- Where the value of a parameter that is not given comes from. -/
inductive ParamDefault where
  | none
  | value (v : Json)
  | workingDir
  | logLevel
deriving Repr, Inhabited, BEq

/-- A parameter of a command. -/
structure Param where
  positional : Bool := false
  names : List String := []
  offNames : List String := []
  dest : String
  type : ParamType := .text
  flag : Bool := false
  count : Bool := false
  multiple : Bool := false
  required : Bool := false
  many : Bool := false
  default : ParamDefault := .none
  help : String := ""
  showDefault : Bool := false
  metavar : Option String := none
  prompt : Option String := none
  hideInput : Bool := false
  confirm : Bool := false
  envvar : Option String := none
  eager : Bool := false
  exposed : Bool := true
deriving Repr, Inhabited

/-- An option with its names, the name its value goes under and its help text. -/
def Param.option (names : List String) (dest : String) (help : String := "") : Param :=
  { names, dest, help }

/-- An option that only sets `dest` to true, false when not given. -/
def Param.switch (names : List String) (dest help : String) : Param :=
  { Param.option names dest help with flag := true, default := .value (.bool false) }

def Param.argument (dest : String) : Param := { positional := true, dest, required := true }

/-- The option that shows the help of a command. -/
def helpParam : Param :=
  { Param.option ["-h", "--help"] "help" "Show this message and exit." with
    flag := true, eager := true, exposed := false }

/-- The option that shows the version of the program. -/
def versionParam : Param :=
  { Param.option ["--version"] "version" "Show the version and exit." with
    flag := true, eager := true, exposed := false }

/-- `--limit`: how many results a listing returns. -/
def limitParam : Param :=
  { Param.option ["--limit", "-l"] "limit" "Number of results to return" with
    default := .value (.int 20), type := .int }

/-- `--offset`, with its short name: where a listing starts. -/
def offsetParam (short : String) : Param :=
  { Param.option ["--offset", short] "offset" "Offset results by the specified amount" with
    default := .value (.int 0), type := .int }

/-- `--out`: the format of the output, one of two, the first by default. -/
def outParam (first second help : String) : Param :=
  { Param.option ["--out", "-o"] "out" with
    type := .choice [first, second], default := .value (.str first), help }

def quietParam (help : String) : Param :=
  Param.switch ["--quiet", "-q"] "quiet" help

def filterParam (help : String) : Param := { Param.option ["--filter", "-f"] "filter_by" with help }

def nameParam (help : String) : Param := { Param.option ["--name", "-n"] "name" with help }

/-- `--file`: the path of a file that must exist, required unless said otherwise. -/
def fileParam (dest help : String) (required : Bool := true) : Param :=
  { Param.option ["--file", "-f"] dest help with required, type := .path true true false }

/-- `--watch`: the output of a run is followed. -/
def watchParam : Param :=
  { Param.option ["--watch", "-w"] "watch" "Watch scrolling output" with
    offNames := ["--no-watch"], flag := true, default := .value (.bool false) }

/-- `--all-items`: deleted entities are listed too. -/
def allItemsParam : Param :=
  { Param.option ["--all-items", "-a"] "all_items" "Get all items, including deleted ones" with
    flag := true }

/-- `--no-cache-update`: the cache of projects is left as it is. -/
def noCacheUpdateParam : Param :=
  { Param.option ["--no-cache-update"] "no_cache_update" "if true, cache is not updated for project" with
    flag := true, default := .value (.bool false) }

/-- `--source`: the source of a marketplace item. -/
def sourceParam (help : String) : Param :=
  { Param.option ["--source", "-s"] "source" with type := .choice ["GLOBAL_STORE", "LOCAL"], help }

/-- `--version`: the version of a marketplace item, required or not. -/
def itemVersionParam (required : Bool) (help : String) : Param :=
  { Param.option ["--version", "-v"] "version" with required, help }

/-- `--category`: the category of a marketplace item. -/
def categoryParam (help : String) : Param := { Param.option ["--category", "-c"] "category" with help }

/-- `--project`, given any number of times: the projects of a marketplace item. -/
def projectsParam (help : String) : Param :=
  { Param.option ["--project", "-p"] "projects" with multiple := true, help }

/-- A command of the command line, or a group of them. -/
inductive Node where
  | command (name help : String) (params : List Param) (since : String) (experimental : Bool)
  | group (name help : String) (params : List Param) (since : String) (checked : Bool)
      (children : List Node)
deriving Inhabited

namespace Node

/-- A command that works with every server version and is not experimental. -/
def plain (name help : String) (params : List Param) : Node := .command name help params "" false

/-- A group with no parameters of its own, for every server version, that checks the versions of
    its commands and suggests names. -/
def members (name help : String) (children : List Node) : Node := .group name help [] "" true children

def name : Node -> String
  | .command n .. | .group n .. => n

def help : Node -> String
  | .command _ h .. | .group _ h .. => h

/-- The declared parameters of a node, and the help option after them. -/
def params : Node -> List Param
  | .command _ _ ps .. | .group _ _ ps .. => ps ++ [helpParam]

/-- The oldest server version that a node works with, empty for any. -/
def since : Node -> String
  | .command _ _ _ s _ | .group _ _ _ s _ _ => s

def isGroup : Node -> Bool
  | .group .. => true
  | .command .. => false

def children : Node -> List Node
  | .group _ _ _ _ _ cs => cs
  | .command .. => []

/-- Whether a group checks versions and suggests names. -/
def checked : Node -> Bool
  | .group _ _ _ _ c _ => c
  | .command .. => false

/-- The names of the members of a group, sorted. -/
def childNames (n : Node) : List String :=
  (n.children.map Node.name).mergeSort (fun a b => decide (a ≤ b))

def child? (n : Node) (name : String) : Option Node := n.children.find? (·.name == name)

end Node

/-- Whether an option name is short: a dash and one character. -/
def isShortName (n : String) : Bool :=
  n.length == 2 && n.startsWith "-" && n != "--"

/-- What the words gave for one parameter, before it is converted. -/
inductive Given where
  | text (s : String)
  | texts (ss : List String)
  | switch (on : Bool)
  | times (n : Nat)
  | missing
deriving Repr, Inhabited

/-- The state of the first pass over the words of a command. -/
structure Sorting where
  given : List (String × Given) := []
  order : List String := []
  largs : List String := []
  rargs : List String := []
deriving Inhabited

/-- Why the first pass stops: an unknown option, with the names most like it, or another
    misuse. -/
inductive WordError where
  | noSuchOption (name : String) (likely : List String)
  | misuse (message : String)

def WordError.message : WordError -> String
  | .noSuchOption name likely =>
    "No such option: " ++ name ++ (match likely with
      | [] => ""
      | [p] => " Did you mean " ++ p ++ "?"
      | ps => " (Possible options: " ++
        ", ".intercalate (ps.mergeSort (fun a b => decide (a ≤ b))) ++ ")")
  | .misuse m => m

def Param.takesValue (p : Param) : Bool := !p.flag && !p.count

/-- The options of a command by name: the option, and whether the name turns it on. A name that
    several options declare belongs to the last of them. -/
def optionNamed? (ps : List Param) (name : String) : Option (Param × Bool) :=
  ps.reverse.findSome? fun p =>
    if p.positional then none
    else if p.names.contains name then some (p, true)
    else if p.offNames.contains name then some (p, false)
    else none

/-- The long names of the options of a command, in the order they are declared. -/
def longNames (ps : List Param) : List String :=
  ps.flatMap fun p => if p.positional then [] else (p.names ++ p.offNames).filter (!isShortName ·)

def Sorting.record (st : Sorting) (p : Param) (on : Bool) (value : Option String) : Sorting :=
  let old : Option Given := (st.given.find? (·.1 == p.dest)).map (·.2)
  let new : Given :=
    if p.count then match old with
      | some (.times n) => .times (n + 1)
      | _ => .times 1
    else if p.flag then .switch on
    else if p.multiple then match old, value with
      | some (.texts ss), some v => .texts (ss ++ [v])
      | _, some v => .texts [v]
      | _, none => .texts []
    else .text (value.getD "")
  { st with given := (st.given.filter (·.1 != p.dest)) ++ [(p.dest, new)],
            order := st.order ++ [p.dest] }

/-- Takes the value of an option from the next word. -/
def Sorting.takeValue (st : Sorting) (name : String) : Except WordError (String × Sorting) :=
  match st.rargs with
  | v :: rest => .ok (v, { st with rargs := rest })
  | [] => .error (.misuse ("Option " ++ quoted name ++ " requires an argument."))

/-- Reads an option given by a long name, with the value written after `=` if any. -/
def matchLong (ps : List Param) (st : Sorting) (name : String) (explicit : Option String) :
    Except WordError Sorting := do
  let some (p, on) := optionNamed? ps name
    | throw (.noSuchOption name (closeMatches name (longNames ps) 3 3 5))
  if isShortName name then
    throw (.noSuchOption name (closeMatches name (longNames ps) 3 3 5))
  if p.takesValue then
    let st := match explicit with
      | some v => { st with rargs := v :: st.rargs }
      | none => st
    let (v, st) <- st.takeValue name
    pure (st.record p on (some v))
  else if explicit.isSome then
    throw (.misuse ("Option " ++ quoted name ++ " does not take a value."))
  else pure (st.record p on none)

/-- Reads short options given together in one word, such as `-ab` or `-fvalue`. -/
def matchShort (ps : List Param) (st : Sorting) (word : String) : Except WordError Sorting := do
  let chars := word.toList
  let pfx := (chars.headD '-').toString
  let rec go : List Char -> Sorting -> Except WordError Sorting
    | [], st => pure st
    | c :: rest, st => do
      let name := pfx ++ c.toString
      let some (p, on) := optionNamed? ps name
        | throw (.noSuchOption name [])
      if p.takesValue then
        let st := if rest.isEmpty then st else { st with rargs := String.ofList rest :: st.rargs }
        let (v, st) <- st.takeValue name
        pure (st.record p on (some v))
      else go rest (st.record p on none)
  go (chars.drop 1) st

/-- Reads a word that starts like an option: first as a long name, then, unless it starts with
    two dashes, as short names. -/
def matchOption (ps : List Param) (st : Sorting) (word : String) : Except WordError Sorting :=
  let (name, explicit) := match word.splitOn "=" with
    | first :: rest@(_ :: _) => (first, some ("=".intercalate rest))
    | _ => (word, none)
  match matchLong ps st name explicit with
  | .ok st => .ok st
  | .error (.noSuchOption n likely) =>
    if word.startsWith "--" then .error (.noSuchOption n likely) else matchShort ps st word
  | .error e => .error e

/-- The first pass over the words of a command. A group stops at its first plain word. -/
def sortWords (ps : List Param) (interspersed : Bool) : Nat -> Sorting -> Except WordError Sorting
  | 0, st => .ok st
  | n + 1, st =>
    match st.rargs with
    | [] => .ok st
    | w :: rest =>
      let st := { st with rargs := rest }
      if w == "--" then .ok st
      else if w.startsWith "-" && w.length > 1 then do
        let st <- matchOption ps st w
        sortWords ps interspersed n st
      else if interspersed then sortWords ps interspersed n { st with largs := st.largs ++ [w] }
      else .ok { st with rargs := w :: st.rargs }

/-- Hands the plain words to the positional arguments in order; an argument that takes the rest
    takes what the arguments after it leave. The words left over are returned. -/
def bindPositional (ps : List Param) (st : Sorting) : Sorting :=
  let words := st.largs ++ st.rargs
  let args := ps.filter (·.positional)
  let before := args.takeWhile (!·.many)
  let after := (args.dropWhile (!·.many)).drop 1
  let star := (args.find? (·.many))
  let takeFront (ws : List String) (p : Param) : List String × (String × Given) :=
    match ws with
    | w :: rest => (rest, (p.dest, .text w))
    | [] => ([], (p.dest, .missing))
  let (rest, front) := before.foldl (fun (acc : List String × List (String × Given)) p =>
    let (ws, g) := takeFront acc.1 p
    (ws, acc.2 ++ [g])) (words, [])
  match star with
  | none =>
    { st with given := st.given ++ front, order := st.order ++ before.map (·.dest),
              largs := rest, rargs := [] }
  | some sp =>
    let (restRev, back) := after.reverse.foldl (fun (acc : List String × List (String × Given)) p =>
      let (ws, g) := takeFront acc.1 p
      (ws, g :: acc.2)) (rest.reverse, [])
    let starValue : Given := .texts restRev.reverse
    { st with given := st.given ++ front ++ [(sp.dest, starValue)] ++ back,
              order := st.order ++ args.map (·.dest), largs := [], rargs := [] }

/-- The order in which parameters get their values: eager ones first, then by when they were
    given, then those not given in the order they are declared. -/
def processingOrder (ps : List Param) (order : List String) : List Param :=
  let rank (p : Param) : Nat × Nat :=
    (if p.eager then 0 else 1, (order.idxOf? p.dest).getD order.length)
  let keyed := ps.zipIdx.map fun (p, i) => (rank p, i, p)
  let sorted := keyed.mergeSort fun a b =>
    a.1.1 < b.1.1 || (a.1.1 == b.1.1 && (a.1.2 < b.1.2 || (a.1.2 == b.1.2 && a.2.1 ≤ b.2.1)))
  sorted.map (·.2.2)

end Blueprints.Cli
