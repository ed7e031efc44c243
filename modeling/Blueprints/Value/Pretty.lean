import Blueprints.Value.Text
import Blueprints.Text.Diff
import Blueprints.Text.Pattern

namespace Blueprints.Value
open Text

/-- The order in which the keys of a dictionary are written: texts and numbers by their own
    order, values of different types by the names of their types. -/
def keyBefore (a b : Value) : Bool :=
  match a, b with
  | .str x, .str y => decide (x < y)
  | .int x, .int y => decide (x < y)
  | .bool x, .bool y => !x && y
  | _, _ => decide (a.typeName < b.typeName)

/-- The entries of a dictionary sorted by their keys; entries of equal keys keep their order. -/
def sortEntries (entries : List (Value × Value)) : List (Value × Value) :=
  entries.mergeSort fun p q => !keyBefore q.1 p.1

mutual
/-- How deeply containers nest in a value: zero for a value that holds none. -/
def nesting : Value -> Nat
  | .list items | .tuple items => nestingItems items + 1
  | .dict entries => nestingEntries entries + 1
  | _ => 0

def nestingItems : List Value -> Nat
  | [] => 0
  | x :: xs => max (nesting x) (nestingItems xs)

/-- The deepest nesting among the keys and values of entries. -/
def nestingEntries : List (Value × Value) -> Nat
  | [] => 0
  | (k, v) :: es => max (max (nesting k) (nesting v)) (nestingEntries es)
end

/-- The reading form of a value with the keys of its dictionaries sorted, to a depth. -/
def sortedReprTo : Nat -> Value -> String
  | 0, v => v.repr
  | n + 1, .list items => "[" ++ ", ".intercalate (items.map (sortedReprTo n)) ++ "]"
  | n + 1, .tuple [x] => "(" ++ sortedReprTo n x ++ ",)"
  | n + 1, .tuple items => "(" ++ ", ".intercalate (items.map (sortedReprTo n)) ++ ")"
  | n + 1, .dict entries =>
    "\x7b" ++ ", ".intercalate ((sortEntries entries).map fun (k, v) =>
      sortedReprTo n k ++ ": " ++ sortedReprTo n v) ++ "\x7d"
  | _, v => v.repr

/-- The reading form of a value with the keys of its dictionaries sorted. -/
def sortedRepr (v : Value) : String := sortedReprTo (v.nesting + 1) v

def prettyWidth : Nat := 80

def blanks (n : Nat) : String := String.ofList (List.replicate n ' ')

/-- The runs of a line: each a stretch of non-blank characters followed by the blanks after
    it, covering the line. -/
def blankRuns (line : String) : List String :=
  go line.toList [] false
where
  go : List Char -> List Char -> Bool -> List String
    | [], acc, _ => if acc.isEmpty then [] else [String.ofList acc.reverse]
    | c :: cs, acc, inBlanks =>
      if isBlankChar c then go cs (c :: acc) true
      else if inBlanks then String.ofList acc.reverse :: go cs [c] false
      else go cs (c :: acc) false

/-- The quoted pieces of a line that is too long: runs are gathered while the quoted gathering
    fits, the last run of the text leaving room for `allowance` more. -/
def linePieces (runs : List String) (width allowance : Nat) (lastLine : Bool) : List String :=
  let n := runs.length
  let (pieces, current) := runs.zipIdx.foldl (fun (acc : List String × String) (part, j) =>
    let (pieces, current) := acc
    let candidate := current ++ part
    let limit := if j + 1 == n && lastLine then width - allowance else width
    if (quoted candidate).length > limit then
      ((if current.isEmpty then pieces else pieces ++ [quoted current]), part)
    else (pieces, candidate)) ([], "")
  if current.isEmpty then pieces else pieces ++ [quoted current]

/-- A text laid out at a column with room left for `allowance` characters after it, at a
    nesting level (one at the outer level). -/
def prettyText (s : String) (indent allowance level : Nat) : String := Id.run do
  if s.isEmpty then return quoted s
  let lines := linesWithEnds s
  let (indent, allowance) := if level == 1 then (indent + 1, allowance + 1) else (indent, allowance)
  let width := prettyWidth - indent
  let mut chunks : List String := []
  let mut lastRep := ""
  for (line, i) in lines.zipIdx do
    let rep := quoted line
    lastRep := rep
    let last := i + 1 == lines.length
    let limit := if last then width - allowance else width
    if rep.length ≤ limit then chunks := chunks ++ [rep]
    else chunks := chunks ++ linePieces (blankRuns line) width allowance last
  if chunks.length == 1 then return lastRep
  let body := ("\n" ++ blanks indent).intercalate chunks
  return if level == 1 then "(" ++ body ++ ")" else body

/-- A value laid out at a column with room left for `allowance` characters after it, at a
    nesting level, to a depth. -/
def prettyTo : Nat -> Value -> Nat -> Nat -> Nat -> String
  | 0, v, _, _, _ => sortedRepr v
  | n + 1, v, indent, allowance, level =>
    let rep := sortedRepr v
    if rep.length + indent + allowance ≤ prettyWidth then rep
    else
      match v with
      | .dict [] | .list [] | .tuple [] => rep
      | .dict entries =>
        let entries := sortEntries entries
        let inner := indent + 1
        let lastIdx := entries.length - 1
        let body := (",\n" ++ blanks inner).intercalate (entries.zipIdx.map fun ((k, x), i) =>
          let key := sortedRepr k
          key ++ ": " ++ prettyTo n x (inner + key.length + 2)
            (if i == lastIdx then allowance + 1 else 1) (level + 1))
        "\x7b" ++ body ++ "\x7d"
      | .list items => "[" ++ prettyItems n items indent (allowance + 1) (level + 1) ++ "]"
      | .tuple items =>
        let close := if items.length == 1 then ",)" else ")"
        "(" ++ prettyItems n items indent (allowance + close.length) (level + 1) ++ close
      | .str s => prettyText s indent allowance (level + 1)
      | _ => rep
where
  prettyItems (n : Nat) (items : List Value) (indent allowance level : Nat) : String :=
    let inner := indent + 1
    let lastIdx := items.length - 1
    (",\n" ++ blanks inner).intercalate (items.zipIdx.map fun (x, i) =>
      prettyTo n x inner (if i == lastIdx then allowance else 1) level)

/-- A value laid out within the width, from the first column. -/
def pretty (v : Value) : String := prettyTo (v.nesting + 1) v 0 0 0

end Blueprints.Value
