import Blueprints.Cli.Listing

namespace Blueprints.Cli

open Text Build

/-- The length a help text is cut to in the table. -/
def catalogHelpWidth : Nat := 45

/-- The first words of a help text, ending with the first word that ends a sentence, and dots
    in place of the first word that would take the text past the width. `used` is the length
    of the text so far, `empty` whether no word is in it yet. -/
def leadingWords : List String -> Nat -> Bool -> String
  | [], _, _ => ""
  | w :: ws, used, empty =>
    let added := if empty then w.length else w.length + 1
    if used + added > catalogHelpWidth then "..."
    else
      let piece := (if empty then "" else " ") ++ w
      if w.endsWith "." then piece else piece ++ leadingWords ws (used + added) false

def briefHelp (help : String) : String := leadingWords (splitBlanks help) 0 true

/-- The row of a member listed in the table, under the words that lead to it. -/
def catalogRow (path : List String) (node : Node) : List String :=
  let words := path ++ [node.name]
  let (since, experimental) := match node with
    | .command _ _ _ since experimental => (since, experimental)
    | .group .. => ("", false)
  [programName ++ " " ++ " ".intercalate words, briefHelp node.help,
    if since.isEmpty then "-" else since, if experimental then "True" else "-"]

/-- Whether a member is a group that is opened in the table rather than listed. -/
def isOpened (node : Node) : Bool :=
  match node with
  | .group .. => node.checked
  | .command .. => false

/-- The members of a group in the order of their names. -/
def sortedChildren (node : Node) : List Node :=
  node.childNames.filterMap node.child?

/-- The rows of the groups of a queue, each opened in turn, and then of the groups they hold,
    level by level. The fuel bounds the depth of the tree. -/
def catalogRows : Nat -> List (List String × Node) -> List (List String)
  | 0, _ => []
  | _, [] => []
  | fuel + 1, queue =>
    let members := queue.flatMap fun (path, group) =>
      (sortedChildren group).map fun child => (path, child)
    let listed := members.filterMap fun (path, child) =>
      if isOpened child then none else some (catalogRow path child)
    let next := members.filterMap fun (path, child) =>
      if isOpened child then some (path ++ [child.name], child) else none
    listed ++ catalogRows fuel next

/-- Levels enough for the tree: no group of it lies deeper than this. -/
def catalogDepth : Nat := 16

def commandCatalog : Grid :=
  let root := sortedChildren rootGroup
  let listed := root.filterMap fun child =>
    if isOpened child then none else some (catalogRow [] child)
  let queue := root.filterMap fun child =>
    if isOpened child then some ([child.name], child) else none
  { headers := ["COMMAND", "HELP", "MIN COMMAND VERSION", "EXPERIMENTAL"],
    rows := listed ++ catalogRows catalogDepth queue, aligns := [.left] }

def showCommands : Build Unit := print (commandCatalog.render ++ "\n")

end Blueprints.Cli
