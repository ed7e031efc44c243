import Blueprints.Cli.Settings
import Blueprints.Text.Clock
import Blueprints.Text.Case

namespace Blueprints.Cli

open Library Http Build Text Api

/-- A search for names that contain each text, in any letter case. -/
def nameQuery (names : List String) : String :=
  if names.isEmpty then ""
  else
    let anyCase (c : Char) : String :=
      "[" ++ (lower c).toString ++ "|" ++ (upper c).toString ++ "]"
    "(" ++ ",".intercalate (names.map fun n =>
      "name==.*" ++ String.join (n.toList.map anyCase) ++ ".*") ++ ")"

/-- A filter that admits entities in any of the states, as an added part. -/
def statesFilter (key : String) (states : List String) : String :=
  ";(" ++ key ++ "==" ++ ("," ++ key ++ "==").intercalate states ++ ")"

/-- Parts of a filter, each after the first starting with `;`, joined; a first part that
    starts with `;` loses it. -/
def joinFilter (parts : List String) : String :=
  let q := String.join parts
  if q.startsWith ";" then String.ofList (q.toList.drop 1) else q

/-- The filter of a page: the name searched for, the filter given and the parts added, joined
    by `;`. -/
def filterQuery (name filterBy : Option String) (extras : List String) : String :=
  let byName := match name with
    | some n => if n.isEmpty then "" else nameQuery [n]
    | none => ""
  let given := match filterBy with
    | some f => if f.isEmpty then "" else ";(" ++ f ++ ")"
    | none => ""
  joinFilter ([byName, given] ++ extras)

/-- The parameters of a page: its length, its offset and its filter, if it has one. -/
def pageParams (limit offset : Value) (filter : String) : Value :=
  dictOf ([("length", limit), ("offset", offset)] ++
    (if filter.isEmpty then [] else [("filter", .str filter)]))

/-- Whether the server's version is at least the given one. -/
def serverAtLeast (version : String) : Build Bool := do
  pure (!versionLt (<- get).version version)

/-- The value of a parameter of the command line. -/
def paramValue (values : ParamValues) (key : String) : Value :=
  ((values.find? (·.1 == key)).map (·.2)).getD .none

/-- The warning about a page that could not be read from the server. -/
def cannotFetch (what : String) : Build Unit := do
  let settings <- serverSettings
  logWarning ("Cannot fetch " ++ what ++ " from " ++ settings.serverValue "pc_ip")

/-- Reads a page of a collection; a page that cannot be read is reported and gives nothing. -/
def readPage (r : Api.Resource) (params : Value) (failure : Build Unit) : Build (Option Value) := do
  let outcome <- r.list params
  if outcome.error.isSome then
    failure
    return none
  pure (some (<- outcome.json))

/-- Warns when the server has more matches than a page of `limit` holds. -/
def warnTruncated (response limit : Value) : Build Unit := do
  let total <- path! response ["metadata", "total_matches"]
  if <- compareValues .gt total limit then
    logWarning ("Displaying " ++ limit.toText ++ " out of " ++ total.toText ++
      " entities. Please use --limit and --offset option for more results.")

/-- Writes a value as JSON indented by four. -/
def printJson (v : Value) : Build Unit := do
  match v.toJson with
  | .ok j => print (Json.render (.pretty 4) j ++ "\n")
  | .error f => throw f

def printGrid (headers : List String) (rows : List (List String)) : Build Unit := do
  let grid : Text.Grid := { headers, rows }
  print (grid.render ++ "\n")

def integerOf (v : Value) : Build Int :=
  match v with
  | .int n => pure n
  | .bool b => pure (if b then 1 else 0)
  | .str s =>
    match readInt? s with
    | some n => pure n
    | none => throw (.badValue ("invalid literal for int() with base 10: " ++ quoted s))
  | .float x => pure (truncateDecimal x)
  | v => throw (.wrongType ("int() argument must be a string, a bytes-like object or a number, " ++
      "not '" ++ v.typeName ++ "'"))

/-- The instant, in seconds, of a time in microseconds. -/
def secondsOf (micros : Value) : Build Int := do
  pure (Int.fdiv (<- integerOf micros) 1000000)

/-- `d.get(key, default)` of a dictionary. -/
def getOr (d : Value) (key : String) (default : Value) : Build Value :=
  Entities.getOr d key default

/-- The name of a reference that a dictionary may hold, or a default text. -/
def referenceName (metadata : Value) (key : String) (default : Value) : Build Value := do
  let ref <- getOr metadata key (.dict [])
  getOr ref "name" default

/-- The name of a reference that a dictionary holds, or none when it holds none. -/
def referenceNameIfAny (metadata : Value) (key : String) : Build Value := do
  if (dictGet? (<- dictEntries metadata) key).isSome then
    path! metadata [key, "name"]
  else pure .none
where
  dictEntries (v : Value) : Build (List (Value × Value)) :=
    match v with
    | .dict es => pure es
    | _ => throw (.wrongType ("argument of type '" ++ v.typeName ++ "' is not iterable"))

/-- The names of the entities of a page, one a line. -/
def printNames (entities : List Value) (nameOf : Value -> Build Value) : Build Unit := do
  for e in entities do print ((<- nameOf e).toText ++ "\n")

def lengthOf (v : Value) : Build Nat :=
  match v with
  | .list xs | .tuple xs => pure xs.length
  | .dict es => pure es.length
  | .str s => pure s.length
  | v => throw (.wrongType ("object of type '" ++ v.typeName ++ "' has no len()"))

def isOneOf (v : Value) (texts : List String) : Bool := texts.any fun t => v.equal (.str t)

/-- The text that says a page has no entities of a kind. -/
def noneFound (what : String) : Build Unit := print ("No " ++ what ++ " found !!!\n\n")

end Blueprints.Cli
