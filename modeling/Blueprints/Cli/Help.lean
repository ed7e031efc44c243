import Blueprints.Cli.Reading
import Blueprints.Text.Wrap

namespace Blueprints.Cli

open Text

def helpWidth : Nat := 80

def blanks (n : Nat) : String := String.ofList (List.replicate n ' ')

/-- The usage line of a command, wrapped to the width. -/
def usageLine (path : String) (node : Node) : String :=
  let pfx := "Usage: " ++ path ++ " "
  let args := usagePieces node
  if helpWidth ≥ pfx.length + 20 then
    fillText helpWidth { first := pfx, rest := blanks pfx.length } args
  else
    pfx ++ "\n" ++ fillText helpWidth { first := blanks 11, rest := blanks 11 } args

/-- Where reading the words of a help text for its short form stops. -/
inductive Cut where
  | whole
  | sentence (n : Nat)
  | over (i total : Nat)

/-- Walks the words of a help text, adding each with its separating blank. -/
def walkWords (limit last : Nat) : List String -> Nat -> Nat -> Cut
  | [], _, _ => .whole
  | w :: ws, i, total =>
    let total := total + w.length + (if i > 0 then 1 else 0)
    if total > limit then .over i total
    else if w.endsWith "." then .sentence (i + 1)
    else if total == limit && i != last then .over i total
    else walkWords limit last ws (i + 1) total

/-- Drops words from the end until the text and the dots fit in the limit. -/
def shrinkWords (words : List String) (limit : Nat) : Nat -> Nat -> Nat -> Nat
  | 0, i, _ => i
  | fuel + 1, i, total =>
    if i == 0 then i
    else
      let total := total - ((words.getD i "").length + 1)
      if total ≤ limit then i else shrinkWords words limit fuel (i - 1) total

/-- The first sentence of a help text, cut to `limit` columns with dots when it is longer. -/
def shortHelp (help : String) (limit : Nat) : String :=
  let first := match help.splitOn "\n\n" with
    | p :: _ => p
    | [] => help
  let words := ((first.split (fun c => c == ' ' || c == '\n' || c == '\t' || c == '\r')).toList.map
    (·.toString)).filter (!·.isEmpty)
  let words := match words with
    | w :: rest => if w == "\x08" then rest else words
    | [] => []
  match walkWords limit (words.length - 1) words 0 0 with
  | .whole => " ".intercalate words
  | .sentence n => " ".intercalate (words.take n)
  | .over i total =>
    let i := shrinkWords words limit (i + 1) i (total + 3)
    " ".intercalate (words.take i) ++ "..."

/-- Writes a two-column list: terms, then their texts wrapped beside them. -/
def definitionList (indent : Nat) (rows : List (String × String)) : String :=
  let widest := rows.foldl (fun m (t, _) => max m t.length) 0
  let firstCol := min widest 30 + 2
  let textWidth := max (helpWidth - firstCol - 2) 10
  String.join (rows.map fun (term, text) =>
    let head := blanks indent ++ term
    if text.isEmpty then head ++ "\n"
    else
      let pad := if term.length ≤ firstCol - 2 then blanks (firstCol - term.length)
        else "\n" ++ blanks (firstCol + indent)
      let lines := (wrapText textWidth {} text).splitOn "\n"
      match lines with
      | first :: rest =>
        head ++ pad ++ first ++ "\n" ++
          String.join (rest.map fun l => blanks (firstCol + indent) ++ l ++ "\n")
      | [] => head ++ pad ++ "\n")

/-- The option names of a parameter as help lists them, short names first. -/
def joinNames (names : List String) : String :=
  let prefixLen (n : String) : Nat := if n.startsWith "--" then 2 else 1
  let sorted := names.zipIdx.mergeSort fun a b =>
    prefixLen a.1 < prefixLen b.1 || (prefixLen a.1 == prefixLen b.1 && a.2 ≤ b.2)
  ", ".intercalate (sorted.map (·.1))

/-- The default of an option as help shows it, if it shows one. -/
def shownDefault (p : Param) : Option String :=
  if !p.showDefault then none
  else match p.default with
    | .none => none
    | .workingDir => some workingDir
    | .logLevel => some (toString logLevelIndex)
    | .value j =>
      match j with
      | .null => none
      | .bool b =>
        if p.flag && !p.offNames.isEmpty then
          let n := (if b then p.names else p.offNames).headD ""
          some (String.ofList (n.toList.dropWhile (· == '-')))
        else if p.flag && !b then none
        else some (if b then "True" else "False")
      | .arr items => some (", ".intercalate (items.map fun x => (Value.ofJson x).toText))
      | other => some (Value.ofJson other).toText

/-- The row of an option in the options list. -/
def optionRow (p : Param) : String × String :=
  let withValue (names : List String) : String :=
    joinNames names ++ (if p.flag || p.count then "" else " " ++ p.optionMetavar)
  let term := withValue p.names ++
    (if p.offNames.isEmpty then "" else " / " ++ withValue p.offNames)
  let extras := (match shownDefault p with
      | some d => if d.isEmpty then [] else ["default: " ++ d]
      | none => []) ++ (if p.required then ["required"] else [])
  let text := if extras.isEmpty then p.help
    else if p.help.isEmpty then "[" ++ "; ".intercalate extras ++ "]"
    else p.help ++ "  [" ++ "; ".intercalate extras ++ "]"
  (term, text)

def helpPage (path : String) (node : Node) : String :=
  let usage := usageLine path node ++ "\n"
  let text := if node.help.isEmpty then ""
    else "\n" ++ wrapText helpWidth { first := "  ", rest := "  " } node.help ++ "\n"
  let rows := (node.params.filter (!·.positional)).map optionRow
  let options := if rows.isEmpty then "" else "\nOptions:\n" ++ definitionList 2 rows
  let commands := if !node.isGroup then "" else
    let names := node.childNames
    if names.isEmpty then "" else
    let widest := names.foldl (fun m n => max m n.length) 0
    let limit := helpWidth - 6 - widest
    let rows := names.filterMap fun n => (node.child? n).map fun c => (n, shortHelp c.help limit)
    "\nCommands:\n" ++ definitionList 2 rows
  let page := usage ++ text ++ options ++ commands
  String.ofList (page.toList.reverse.dropWhile (· == '\n')).reverse

/-- What a misused command shows: its usage, where its help is, and the error. -/
def usageError (path : String) (node : Node) (message : String) : String :=
  usageLine path node ++ "\nTry '" ++ path ++ " -h' for help.\n\nError: " ++ message ++ "\n"

end Blueprints.Cli
