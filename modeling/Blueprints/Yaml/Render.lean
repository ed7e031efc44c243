import Blueprints.Yaml.Scalar

namespace Blueprints.Yaml

/-- How a document is laid out. -/
structure Layout where
  mapIndent : Nat := 2
  seqIndent : Nat := 2
  dashOffset : Nat := 0
  width : Nat := 80
  wide : Bool := false
  literalLines : Bool := true
deriving Inhabited

/-- The text written so far and where the writer stands. -/
structure Writer where
  out : String := ""
  column : Nat := 0
  whitespace : Bool := true
  indention : Bool := true
  openEnded : Bool := false
deriving Inhabited

def spaces (n : Nat) : String := String.ofList (List.replicate n ' ')

namespace Writer

def write (w : Writer) (s : String) : Writer :=
  { w with out := w.out ++ s, column := w.column + s.length }

def lineBreak (w : Writer) (br : String := "\n") : Writer :=
  { w with out := w.out ++ br, column := 0, whitespace := true, indention := true }

/-- Moves to column `n` of a fresh line, unless the line holds only indentation up to there. -/
def indentTo (w : Writer) (n : Nat) : Writer :=
  let w := if !w.indention || w.column > n || (w.column == n && !w.whitespace) then w.lineBreak
    else w
  if w.column < n then { w.write (spaces (n - w.column)) with whitespace := true } else w

/-- Writes an indicator, after a blank when one is needed and none was written. -/
def indicator (w : Writer) (ind : String) (needBlank : Bool) (blank : Bool := false)
    (indention : Bool := false) : Writer :=
  let data := if w.whitespace || !needBlank then ind else " " ++ ind
  { w.write data with
    whitespace := blank
    indention := w.indention && indention
    openEnded := false }

/-- Writes line breaks: a line feed as the default break, any other break as itself. -/
def breaks (w : Writer) (bs : List Char) : Writer :=
  bs.foldl (fun w b => if b == '\n' then w.lineBreak else w.lineBreak (String.ofList [b])) w

end Writer

/-- The kind of a character for splitting text into runs: a space, a line break, or another
    character. -/
def runKind (c : Char) : Nat := if c == ' ' then 0 else if isLineBreak c then 1 else 2

/-- The runs of a text: maximal runs of characters of one kind. -/
def runs (cs : List Char) : List (List Char) :=
  cs.foldr (fun c acc => match acc with
    | (d :: run) :: more => if runKind c == runKind d then (c :: d :: run) :: more else [c] :: acc
    | _ => [c] :: acc) []

/-- Writes plain text; lines break at a single blank past the width when `split` allows. -/
def writePlain (l : Layout) (indent : Nat) (split : Bool) (w : Writer) (text : String) :
    Writer :=
  if text.isEmpty then w
  else
    let w := if w.whitespace then w else w.write " "
    let w := { w with whitespace := false, indention := false }
    (runs text.toList).foldl (fun w run =>
      match run with
      | [' '] =>
        if w.column > l.width && split then
          { w.indentTo indent with whitespace := false, indention := false }
        else w.write " "
      | c :: _ =>
        if isLineBreak c then
          let w := if c == '\n' then w.lineBreak else w
          { (w.breaks run).indentTo indent with whitespace := false, indention := false }
        else w.write (String.ofList run)
      | [] => w) w

/-- Writes text in single quotes, a quote doubled, a line break written twice so that it reads
    back as a break and not as a blank. -/
def writeSingle (l : Layout) (indent : Nat) (split : Bool) (w : Writer) (text : String) :
    Writer :=
  let cs := text.toList
  let w := w.indicator "'" true
  let step := fun (acc : Writer × Nat) (run : List Char) =>
    let (w, start) := acc
    let stop := start + run.length
    let w := match run with
      | [' '] =>
        if w.column > l.width && split && start != 0 && stop != cs.length then w.indentTo indent
        else w.write " "
      | c :: _ =>
        if isLineBreak c then
          let w := if c == '\n' then w.lineBreak else w
          (w.breaks run).indentTo indent
        else if c == ' ' then w.write (String.ofList run)
        else w.write (String.join (run.map fun d => if d == '\'' then "''" else d.toString))
      | [] => w
    (w, stop)
  let (w, _) := (runs cs).foldl step (w, 0)
  w.indicator "'" false

/-- The escape of a character in double quotes, by its name when it has one. -/
def escapeName? (c : Char) : Option String :=
  match c.toNat with
  | 0x00 => some "0" | 0x07 => some "a" | 0x08 => some "b" | 0x09 => some "t"
  | 0x0A => some "n" | 0x0B => some "v" | 0x0C => some "f" | 0x0D => some "r"
  | 0x1B => some "e" | 0x22 => some "\"" | 0x5C => some "\\" | 0x85 => some "N"
  | 0xA0 => some "_" | 0x2028 => some "L" | 0x2029 => some "P"
  | _ => none

/-- Upper-case hexadecimal digits of `n`, at least `digits` of them. -/
def hexUpper (n digits : Nat) : String :=
  let rec go (fuel n : Nat) (acc : List Char) : List Char :=
    match fuel with
    | 0 => acc
    | fuel + 1 =>
      let d := n % 16
      let c := if d < 10 then Char.ofNat (48 + d) else Char.ofNat (55 + d)
      if n < 16 then c :: acc else go fuel (n / 16) (c :: acc)
  let ds := go 8 n []
  String.ofList (List.replicate (digits - ds.length) '0' ++ ds)

/-- The escape of a character in double quotes. -/
def escapeChar (c : Char) : String :=
  match escapeName? c with
  | some name => "\\" ++ name
  | none =>
    if c.toNat ≤ 0xFF then "\\x" ++ hexUpper c.toNat 2
    else if c.toNat ≤ 0xFFFF then "\\u" ++ hexUpper c.toNat 4
    else "\\U" ++ hexUpper c.toNat 8

/-- Whether double quotes write a character escaped. -/
def needsEscape (l : Layout) (c : Char) : Bool :=
  let n := c.toNat
  c == '"' || c == '\\' || n == 0x85 || n == 0x2028 || n == 0x2029 || n == 0xFEFF ||
    !((0x20 ≤ n && n ≤ 0x7E) || (l.wide && ((0xA0 ≤ n && n ≤ 0xD7FF) || (0xE000 ≤ n && n ≤ 0xFFFD))))

/-- The characters of `cs` from position `start` up to `stop`. -/
def slice (cs : Array Char) (start stop : Nat) : String :=
  String.ofList ((cs.toList.drop start).take (stop - start))

/-- Writes text in double quotes from position `stop` on, the text from `start` to `stop` not
    yet written. A long line breaks before a blank or after an escape, with a backslash at its
    end; a blank that starts the next line is escaped so that it is kept. -/
def writeDoubleFrom (l : Layout) (indent : Nat) (split : Bool) (cs : Array Char)
    (start stop : Nat) (w : Writer) : Writer :=
    if h : stop ≤ cs.size then
      let ch := cs[stop]?
      let escaped := match ch with
        | none => true
        | some c => needsEscape l c
      let (w, start) := if escaped then
          let w := if start < stop then w.write (slice cs start stop) else w
          match ch with
          | some c => (w.write (escapeChar c), stop + 1)
          | none => (w, start)
        else (w, start)
      let pending : Int := (stop : Int) - start
      let (w, start) :=
        if 0 < stop && stop + 1 < cs.size && (ch == some ' ' || start ≥ stop) &&
            (w.column : Int) + pending > l.width && split then
          let w := w.write (slice cs start stop ++ "\\")
          let start := if start < stop then stop else start
          let w := { w.indentTo indent with whitespace := false, indention := false }
          let w := if cs[start]? == some ' ' then w.write "\\" else w
          (w, start)
        else (w, start)
      writeDoubleFrom l indent split cs start (stop + 1) w
    else w
termination_by cs.size + 1 - stop

def writeDouble (l : Layout) (indent : Nat) (split : Bool) (w : Writer) (text : String) :
    Writer :=
  let w := w.indicator "\"" true
  (writeDoubleFrom l indent split text.toList.toArray 0 0 w).indicator "\"" false

/-- Writes text as a literal block: an indicator that says how its last line breaks end, then
    its lines, each indented. At the root the lines stand at the left margin. -/
def writeLiteral (l : Layout) (indent : Nat) (root : Bool) (w : Writer) (text : String) :
    Writer :=
  let cs := text.toList
  let leading := match cs.head? with
    | some c => c == ' ' || isLineBreak c
    | none => false
  let indentHint := if leading then toString l.seqIndent else ""
  let chomp := match cs.getLast? with
    | none => ""
    | some c =>
      if !isLineBreak c then "-"
      else if cs.length == 1 || (cs.dropLast.getLast?.map isLineBreak).getD false then "+"
      else ""
  let marked := ["\n---", "\n..."].any fun m =>
    (text.splitOn m).drop 1 |>.any fun after => match after.toList.head? with
      | some c => c == ' ' || c == '\r' || c == '\n'
      | none => false
  let marginal := if leading || (root && marked) then l.seqIndent else 0
  let w := w.indicator ("|" ++ indentHint ++ chomp) true
  let w := if chomp == "+" then { w with openEnded := true } else w
  let w := w.lineBreak
  let startLine := fun (w : Writer) =>
    if root then w.write (spaces marginal) else w.indentTo indent
  let step := fun (acc : Writer × List (List Char)) (run : List Char) =>
    let (w, rest) := acc
    let rest := rest.drop 1
    let w := match run with
      | c :: _ =>
        if isLineBreak c then
          let w := w.breaks run
          if rest.isEmpty then w else startLine w
        else
          let w := w.write (String.ofList run)
          if rest.isEmpty then w.lineBreak else w
      | [] => w
    (w, rest)
  -- literal lines keep their blanks: only line breaks split the text
  let lines := runsOfBreaks cs
  let w := match lines.head? with
    | some (c :: _) => if isLineBreak c then w else startLine w
    | _ => w
  (lines.foldl step (w, lines)).1
where
  runsOfBreaks (cs : List Char) : List (List Char) :=
    cs.foldr (fun c acc => match acc with
      | (d :: run) :: more =>
        if isLineBreak c == isLineBreak d then (c :: d :: run) :: more else [c] :: acc
      | _ => [c] :: acc) []

/-- Where a node stands in its document. -/
structure Place where
  indent : Option Nat
  inSequence : Bool := false
  inMapping : Bool := false
  simpleKey : Bool := false

/-- The indentation that the lines of a node's content start at, one step in from the
    collection that holds it: a sequence's step or a mapping's. -/
def Place.inner (l : Layout) (p : Place) : Nat :=
  match p.indent with
  | none => 0
  | some i => i + if p.inSequence then l.seqIndent else l.mapIndent

/-- How a text scalar is written. -/
inductive Style where
  | plain | single | double | literal
deriving DecidableEq, Repr

/-- The style a text scalar is written in at a place. -/
def chooseStyle (l : Layout) (p : Place) (text : String) : Style :=
  let a := Analysis.of l.wide text
  let literal := l.literalLines && lineCount text.toList > 1
  if !literal && readsAsText text && !(p.simpleKey && (a.empty || a.multiline)) && a.allowPlain
  then .plain
  else if literal then
    if !p.simpleKey && a.allowBlock then .literal else .double
  else if a.allowSingle && !(p.simpleKey && a.multiline) then .single
  else .double

def writeText (l : Layout) (p : Place) (w : Writer) (text : String) : Writer :=
  let indent := p.inner l
  let split := !p.simpleKey
  match chooseStyle l p text with
  | .plain =>
    let w := if p.indent.isNone then { w with openEnded := true } else w
    writePlain l indent split w text
  | .single => writeSingle l indent split w text
  | .double => writeDouble l indent split w text
  | .literal => writeLiteral l indent p.indent.isNone w text

/-- The text of a scalar that is not text. -/
def scalarText : Json -> String
  | .null => "null"
  | .bool b => if b then "true" else "false"
  | .int n => toString n
  | .float x => String.ofList (x.render.toList.map Char.toLower)
  | _ => ""

/-- Whether a key is written on the line of its value: it is short and of one line. -/
def isSimpleKey (key : String) : Bool :=
  key.length + "!!str".length < 128 && !(Analysis.of true key).multiline

mutual
/-- A value with the keys of each of its mappings in order. -/
def sortedKeys : Json -> Json
  | .obj fields => .obj (Json.sortFields (sortedFields fields))
  | .arr items => .arr (sortedItems items)
  | j => j

/-- Items with their mappings' keys in order. -/
def sortedItems : List Json -> List Json
  | [] => []
  | j :: js => sortedKeys j :: sortedItems js

/-- Entries with their values' mappings' keys in order. -/
def sortedFields : List (String × Json) -> List (String × Json)
  | [] => []
  | (k, v) :: fs => (k, sortedKeys v) :: sortedFields fs
end

mutual
def writeNode (l : Layout) (p : Place) (w : Writer) : Json -> Writer
  | .str s => writeText l p w s
  | .obj [] => (w.indicator "\x7b" true true).indicator "\x7d" false
  | .arr [] => (w.indicator "[" true true).indicator "]" false
  | .obj fields => writeEntries l (p.inner l) w fields
  | .arr items =>
    let indentless := p.inMapping && !w.indention
    let indent := match p.indent with
      | some i => if indentless then i else p.inner l
      | none => 0
    writeItems l indent w items
  | j =>
    let w := if p.indent.isNone then { w with openEnded := true } else w
    writePlain l (p.inner l) true w (scalarText j)

/-- Writes the entries of a mapping whose keys stand at column `indent`. -/
def writeEntries (l : Layout) (indent : Nat) (w : Writer) : List (String × Json) -> Writer
  | [] => w
  | (k, v) :: rest =>
    let w := w.indentTo indent
    let w := if isSimpleKey k then
        (writeText l { indent := some indent, inMapping := true, simpleKey := true } w k).indicator
          ":" false
      else
        let w := w.indicator "?" true false true
        let w := writeText l { indent := some indent, inMapping := true } w k
        (w.indentTo indent).indicator ":" true false true
    let w := writeNode l { indent := some indent, inMapping := true } w v
    writeEntries l indent w rest

/-- Writes the items of a sequence whose lines start at column `indent`. -/
def writeItems (l : Layout) (indent : Nat) (w : Writer) : List Json -> Writer
  | [] => w
  | item :: rest =>
    let w := (w.indentTo indent).indicator (spaces l.dashOffset ++ "-") true false true
    let w := writeNode l { indent := some indent, inSequence := true } w item
    writeItems l indent w rest
end

/-- A value as a YAML document, the keys of its mappings in order: the node, a final line break,
    and `...` when the last line of a bare scalar could otherwise go on. -/
def render (l : Layout) (j : Json) : String :=
  let w := (writeNode l { indent := none } {} (sortedKeys j)).indentTo 0
  let w := if w.openEnded then (w.indicator "..." true).indentTo 0 else w
  w.out

end Blueprints.Yaml
