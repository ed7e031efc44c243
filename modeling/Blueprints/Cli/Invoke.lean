import Blueprints.Cli.Help
import Blueprints.Cli.Table

namespace Blueprints.Cli
open Build Text

/-- What runs a command or a group's own action: its path from the root and the values of its
    parameters. -/
abbrev Action := List String -> ParamValues -> Build Unit

def programVersion : String := "0.1"

def programName : String := "main"

def stop {α : Type} (status : Int) : Build α := throw (.exit (toString status))

/-- Shows the usage error of a command and ends the program with status 2. -/
def refuse {α : Type} (path : String) (node : Node) (message : String) : Build α := do
  print (usageError path node message)
  stop 2

/-- The message of an unknown member name, with the names most like it. -/
def noSuchCommand (node : Node) (name : String) : String :=
  let base := "No such command " ++ quoted name ++ "."
  let likely := if node.checked then closeMatches name node.childNames 3 1 2 else []
  if likely.isEmpty then base
  else base ++ "\n\nDid you mean one of these?\n    " ++ "\n    ".intercalate likely

/-- Whether a word starts like an option: its first character is not a letter or a digit. -/
def startsLikeOption (w : String) : Bool :=
  match w.toList with
  | c :: _ => !(c.isAlphanum)
  | [] => false

/-- Runs a command or group with its words. -/
def invokeNode (act : Action) : Nat -> List String -> Node -> List String -> Build Unit
  | 0, _, _, _ => throw .tooDeep
  | fuel + 1, path, node, words => do
    let shown := " ".intercalate (programName :: path)
    let reading <- match <- readWords node words with
      | .ok rd => pure rd
      | .error msg => refuse shown node msg
    match reading with
    | .help =>
      print (helpPage shown node ++ "\n")
      stop 0
    | .version =>
      print (programName ++ ", version " ++ programVersion ++ "\n")
      stop 0
    | .values values rest =>
      if !node.isGroup then return <- act path values
      match rest with
      | [] => refuse shown node "Missing command."
      | name :: more =>
        if let some member := node.child? name then
          if node.checked && !member.since.isEmpty then
            let version := (<- get).version
            if versionLt version member.since then
              logWarning ("Please update Calm (v" ++ version ++ " -> >=v" ++ member.since ++
                ") to use this command.")
              return ()
          -- only the root group has an action of its own
          if path.isEmpty then act path values
          invokeNode act fuel (path ++ [name]) member more
        else if startsLikeOption name then
          print (helpPage shown node ++ "\n")
          stop 0
        else refuse shown node (noSuchCommand node name)

def nodeFuel : Nat := 16

def invoke (act : Action) (words : List String) : Build Unit :=
  invokeNode act nodeFuel [] rootGroup words

end Blueprints.Cli
