import Blueprints.Layout.Tree
import Blueprints.Layout.Literals

namespace Blueprints.Layout

/-- A token placed on a line. -/
structure Piece where
  id : Nat
  kind : TokenKind
  tok : String
  value : String
  before : String := ""
  parent : Sym := .none
  grand : Sym := .none
  parentLeaves : Nat := 0
  afterAsync : Bool := false
  loose : Bool := false
  depth : Nat := 0
  opener : Nat := 0
deriving Repr, Inhabited

/-- The brackets shown so far, and the next free identity for a new piece. -/
structure World where
  shown : List Nat := []
  fresh : Nat := 0
  detached : List Nat := []
deriving Repr, Inhabited

def Piece.isOp (p : Piece) (s : String) : Bool := p.kind == .op && p.tok == s

/-- Whether a piece is the name or keyword `s`. -/
def Piece.isName (p : Piece) (s : String) : Bool := p.kind == .name && p.value == s

def Piece.isOpening (p : Piece) : Bool := p.isOp "(" || p.isOp "[" || p.isOp "\x7b"

def Piece.isClosing (p : Piece) : Bool := p.isOp ")" || p.isOp "]" || p.isOp "\x7d"

def Piece.isBracket (p : Piece) : Bool := p.isOpening || p.isClosing

/-- The closing bracket of an opening one. -/
def closingOf : String -> String
  | "(" => ")"
  | "[" => "]"
  | _ => "\x7d"

/-- The text of a piece as it is written now. -/
def Piece.shown (p : Piece) (w : World) : String :=
  if p.value.isEmpty && p.isBracket && w.shown.contains p.id then p.tok else p.value

/-- Whether a piece is an added bracket that is not shown. -/
def Piece.hidden (p : Piece) (w : World) : Bool := p.isBracket && (p.shown w).isEmpty

/-- The rules whose nodes hold the arguments of calls and the parameters of definitions. -/
def varargsParents : List Sym := [.arglist, .argument, .trailer, .typedargslist, .varargslist]

/-- The rules whose nodes hold unpacking in displays and assignments. -/
def unpackingParents : List Sym := [.atom, .listmaker, .testlistGexp, .testlistStarExpr]

/-- Whether a star, a double star or a slash marks variable arguments or unpacking inside a
    node of one of the rules. -/
def Piece.isVararg (p : Piece) (within : List Sym) : Bool :=
  (p.isOp "*" || p.isOp "**" || p.isOp "/") && !p.loose &&
    (if p.parent == .starExpr then within.contains p.grand else within.contains p.parent)

/-- The priority of splitting after a comma. -/
def commaPriority : Nat := 18
/-- The priority of splitting before the parts of a comprehension. -/
def comprehensionPriority : Nat := 20
/-- The priority of splitting before the parts of a conditional expression. -/
def ternaryPriority : Nat := 16
/-- The priority of splitting before `and` and `or`. -/
def logicPriority : Nat := 14
/-- The priority of splitting between strings side by side. -/
def stringPriority : Nat := 12
/-- The priority of splitting before a comparison. -/
def comparatorPriority : Nat := 10
/-- The priority of splitting before the dot of a call chain. -/
def dotPriority : Nat := 1

/-- The priority of splitting before an arithmetic or bitwise operator. -/
def mathPriority : String -> Nat
  | "|" => 9
  | "^" => 8
  | "&" => 7
  | "<<" | ">>" => 6
  | "+" | "-" => 5
  | "*" | "/" | "//" | "%" | "@" | "~" => 4
  | "**" => 1
  | _ => 0

def comparators : List String := ["<", ">", "==", "!=", "<>", "<=", ">="]

/-- The priority of splitting before a piece, given the piece before it. -/
def splitBeforePriority (leaf : Piece) (previous : Option Piece) : Nat :=
  let prevIsName (s : String) : Bool := (previous.map (·.isName s)).getD false
  if leaf.isVararg (varargsParents ++ unpackingParents) then 0
  else if leaf.isOp "." && !leaf.loose && leaf.parent != .importFrom &&
      leaf.parent != .dottedName && (previous.map (·.isClosing)).getD true then dotPriority
  else if leaf.kind == .op && mathPriority leaf.tok > 0 && !leaf.loose &&
      leaf.parent != .factor && leaf.parent != .starExpr then mathPriority leaf.tok
  else if leaf.kind == .op && comparators.contains leaf.tok then comparatorPriority
  else if leaf.kind == .string && (previous.map (·.kind == .string)).getD false then
    stringPriority
  else if leaf.kind != .name then 0
  else if ((leaf.value == "for" && (leaf.parent == .compFor || leaf.parent == .oldCompFor)) ||
      leaf.value == "async") && !leaf.afterAsync then comprehensionPriority
  else if leaf.value == "if" && (leaf.parent == .compIf || leaf.parent == .oldCompIf) then
    comprehensionPriority
  else if (leaf.value == "if" || leaf.value == "else") && leaf.parent == .test then
    ternaryPriority
  else if leaf.value == "is" then comparatorPriority
  else if leaf.value == "in" && (leaf.parent == .compOp || leaf.parent == .comparison) &&
      !prevIsName "not" then comparatorPriority
  else if leaf.value == "not" && leaf.parent == .compOp && !prevIsName "is" then
    comparatorPriority
  else if (leaf.value == "and" || leaf.value == "or") && !leaf.loose then logicPriority
  else 0

/-- The record of the brackets of a line. -/
structure Tracker where
  depth : Nat := 0
  opened : List (Nat × String × Piece) := []
  delimiters : Array (Nat × Nat) := #[]
  previous : Option Piece := none
  forDepths : List Nat := []
  lambdaDepths : List Nat := []
  invisible : Array Piece := #[]
deriving Repr, Inhabited

/-- Sets the priority of splitting at a piece. -/
def setDelimiter (ds : Array (Nat × Nat)) (id priority : Nat) : Array (Nat × Nat) :=
  if ds.any (·.1 == id) then ds.map fun (k, v) => if k == id then (k, priority) else (k, v)
  else ds.push (id, priority)

/-- Records a piece: its depth, its opening bracket if it closes one, and the delimiters it
    makes. `for ... in` and `lambda ... :` count as brackets, so that the commas between them
    are not split. -/
def Tracker.mark (w : World) (t : Tracker) (leaf : Piece) : Tracker × Piece := Id.run do
  if leaf.kind == .comment then return (t, leaf)
  let mut t := t
  let mut leaf := leaf
  if leaf.isName "in" && t.forDepths.head? == some t.depth then
    t := { t with depth := t.depth - 1, forDepths := t.forDepths.drop 1 }
  if leaf.isOp ":" && t.lambdaDepths.head? == some t.depth then
    t := { t with depth := t.depth - 1, lambdaDepths := t.lambdaDepths.drop 1 }
  if leaf.isClosing then
    let d := t.depth - 1
    let found := t.opened.find? fun (od, c, _) => od == d && c == leaf.tok
    let rest := t.opened.filter fun (od, c, _) => !(od == d && c == leaf.tok)
    t := { t with depth := d, opened := rest }
    if let some (_, _, o) := found then leaf := { leaf with opener := o.id }
    if leaf.hidden w then t := { t with invisible := t.invisible.push leaf }
  leaf := { leaf with depth := t.depth }
  if t.depth == 0 then
    let before := splitBeforePriority leaf t.previous
    if before > 0 then
      if let some p := t.previous then
        t := { t with delimiters := setDelimiter t.delimiters p.id before }
    if leaf.isOp "," then
      t := { t with delimiters := setDelimiter t.delimiters leaf.id commaPriority }
  if leaf.isOpening then
    let opened := (t.depth, closingOf leaf.tok, leaf) :: t.opened
    t := { t with opened, depth := t.depth + 1 }
    if leaf.hidden w then t := { t with invisible := t.invisible.push leaf }
  t := { t with previous := some leaf }
  if leaf.isName "lambda" then
    t := { t with depth := t.depth + 1, lambdaDepths := (t.depth + 1) :: t.lambdaDepths }
  if leaf.isName "for" then
    t := { t with depth := t.depth + 1, forDepths := (t.depth + 1) :: t.forDepths }
  (t, leaf)

def Tracker.anyOpen (t : Tracker) : Bool := !t.opened.isEmpty

/-- The square bracket open just outside the current depth, if any. -/
def Tracker.openSquare? (t : Tracker) : Option Piece :=
  (t.opened.find? fun (d, c, _) => d + 1 == t.depth && c == "]").map (·.2.2)

/-- The highest priority of the delimiters, leaving out some pieces. -/
def Tracker.maxPriority (t : Tracker) (exclude : List Nat := []) : Option Nat :=
  (t.delimiters.filter (fun (k, _) => !exclude.contains k)).foldl
    (fun acc (_, v) => some (max v (acc.getD 0))) none

def Tracker.countWith (t : Tracker) (priority : Nat) : Nat :=
  (t.delimiters.filter (·.2 == priority)).size

/-- A logical line. -/
structure Line where
  depth : Nat := 0
  leaves : Array Piece := #[]
  comments : Array (Nat × Array Piece) := #[]
  insideBrackets : Bool := false
  shouldSplitRhs : Bool := false
  magicComma : Bool := false
  tracker : Tracker := {}
deriving Repr, Inhabited

def Line.isEmpty (l : Line) : Bool := l.leaves.isEmpty && l.comments.isEmpty

def Line.commentsAfter (l : Line) (id : Nat) : Array Piece :=
  ((l.comments.find? (·.1 == id)).map (·.2)).getD #[]

/-- Whether a line is a comment on its own. -/
def Line.isComment (l : Line) : Bool :=
  l.leaves.size == 1 && (l.leaves[0]?.map (·.kind == .standalone)).getD false

def Line.isDecorator (l : Line) : Bool := (l.leaves[0]?.map (·.isOp "@")).getD false

def Line.isImport (l : Line) : Bool :=
  match l.leaves[0]? with
  | some p => (p.isName "import" && p.parent == .importName) ||
      (p.isName "from" && p.parent == .importFrom)
  | none => false

def Line.isClass (l : Line) : Bool := (l.leaves[0]?.map (·.isName "class")).getD false

def Line.isDef (l : Line) : Bool :=
  match l.leaves[0]?, l.leaves[1]? with
  | some a, some b => a.isName "def" || (a.isName "async" && b.isName "def")
  | some a, none => a.isName "def"
  | none, _ => false

/-- Whether a line is a string in triple quotes. -/
def Line.isTripleQuotedString (l : Line) : Bool :=
  match l.leaves[0]? with
  | some p => p.kind == .string && (p.value.startsWith "\"\"\"" || p.value.startsWith "'''")
  | none => false

/-- Whether a line holds a comment that stands on its own. -/
def Line.hasStandalone (l : Line) : Bool := l.leaves.any (·.kind == .standalone)

/-- Whether a line holds a string that runs over lines. -/
def Line.hasMultilineString (l : Line) : Bool :=
  l.leaves.any fun p => p.kind == .string && isMultilineString p.value

/-- Whether the pieces between two brackets look like a tuple of one item: at most one comma
    at the inner depth, and none that separates arguments or parameters. -/
def isOneTupleBetween (opening closing : Piece) (leaves : Array Piece) : Bool :=
  if !opening.isOp "(" && !closing.isOp ")" then false
  else
    let depth := closing.depth + 1
    match leaves.findIdx? (·.id == opening.id) with
    | none => true
    | some i =>
      let inner := (leaves.extract (i + 1) leaves.size).toList.takeWhile (·.id != closing.id)
      let commas := inner.foldl (fun (n, stop) p =>
        if stop then (n, stop)
        else if p.depth == depth && p.isOp "," then
          if p.parent == .arglist || p.parent == .typedargslist then (n + 2, true)
          else (n + 1, false)
        else (n, false)) (0, false)
      commas.1 < 2

/-- Whether a closing bracket ends a trailing comma that asks for one item per line: square
    brackets always, imports always, and other brackets unless they hold a tuple of one. -/
def Line.hasMagicComma (l : Line) (closing : Piece) : Bool :=
  if !(closing.isClosing && (l.leaves.back?.map (·.isOp ",")).getD false) then false
  else if closing.isOp "]" then true
  else if l.isImport then true
  else
    match l.leaves.find? (·.id == closing.opener) with
    | some o => !isOneTupleBetween o closing l.leaves
    | none => true

/-- Attaches a comment to a line, after its last piece; a comment after an added bracket that
    holds a single token goes after that token. Returns the comment unattached, as a piece that
    stands alone, when it cannot be attached. -/
def Line.attachComment (w : World) (l : Line) (c : Piece) : Line × Option Piece :=
  if c.kind == .standalone && l.tracker.anyOpen then (l, some { c with before := "" })
  else if c.kind != .comment then (l, some c)
  else if l.leaves.isEmpty then (l, some { c with kind := .standalone, before := "" })
  else
    let last := l.leaves.back?.getD default
    let target :=
      if last.isOp ")" && last.hidden w && last.parentLeaves ≤ 3 &&
          !c.value.startsWith "# type:" then
        if l.leaves.size < 2 then none else l.leaves[l.leaves.size - 2]?
      else some last
    match target with
    | none => (l, some { c with kind := .standalone, before := "" })
    | some t =>
      let comments :=
        if l.comments.any (·.1 == t.id) then
          l.comments.map fun (k, cs) => if k == t.id then (k, cs.push c) else (k, cs)
        else l.comments.push (t.id, #[c])
      ({ l with comments }, none)

/-- Whether a line is a class whose last two pieces are empty parentheses. -/
def Line.isClassParenEmpty (w : World) (l : Line) : Bool :=
  l.isClass && l.leaves.size ≥ 2 &&
    (l.leaves[l.leaves.size - 2]?.map (fun p => p.isOp "(" && p.shown w == "(")).getD false &&
    (l.leaves.back?.map (fun p => p.isOp ")" && p.shown w == ")")).getD false

/-- Adds a piece to a line. Unless the piece is preformatted, `space` is written before it when
    the line already holds pieces. The piece is recorded with the line's brackets when the line
    stands inside brackets or the piece is not preformatted. -/
def Line.append (w : World) (l : Line) (leaf : Piece) (preformatted : Bool := false)
    (space : String := "") : Line :=
  if !(leaf.isBracket || !(stripBlanks leaf.value).isEmpty) then l
  else
    let l := if leaf.isOp ":" && l.isClassParenEmpty w then
      { l with leaves := l.leaves.extract 0 (l.leaves.size - 2) } else l
    let leaf := if !l.leaves.isEmpty && !preformatted then
      { leaf with before := leaf.before ++ space } else leaf
    let (l, leaf) :=
      if l.insideBrackets || !preformatted then
        let (t, leaf) := l.tracker.mark w leaf
        let l := { l with tracker := t }
        let l := if l.hasMagicComma leaf then { l with magicComma := true } else l
        (l, leaf)
      else (l, leaf)
    match l.attachComment w leaf with
    | (l, none) => l
    | (l, some p) => { l with leaves := l.leaves.push p }

/-- Adds a piece when the line can take it: a line at depth zero that is a comment takes
    nothing more, and a comment that stands alone takes a line of its own. -/
def Line.appendSafe (w : World) (l : Line) (leaf : Piece) (preformatted : Bool := false) :
    Option Line :=
  if l.tracker.depth == 0 && (l.isComment || (!l.leaves.isEmpty && leaf.kind == .standalone))
  then none
  else some (l.append w leaf preformatted)

/-- The text of a line, with its line break. -/
def Line.render (w : World) (l : Line) : String :=
  match l.leaves.toList with
  | [] => "\n"
  | first :: rest =>
    let indent := String.ofList (List.replicate (4 * l.depth) ' ')
    let body := first.before ++ indent ++ first.shown w ++
      String.join (rest.map fun p => p.before ++ p.shown w)
    let notes := String.join (l.comments.toList.flatMap fun (_, cs) =>
      cs.toList.map fun c => c.before ++ c.value)
    body ++ notes ++ "\n"

/-- The text of a line without line breaks at its ends. -/
def Line.text (w : World) (l : Line) : String :=
  let s := l.render w
  let cs := s.toList.dropWhile (· == '\n')
  String.ofList (cs.reverse.dropWhile (· == '\n')).reverse

def lineLength : Nat := 88

/-- Whether a line fits: short enough, on one physical line, and without comments that stand
    on their own. -/
def Line.fits (w : World) (l : Line) : Bool :=
  let s := l.text w
  s.length ≤ lineLength && !s.contains '\n' && !l.hasStandalone

/-- The pieces of a line each with its written width and that of its comments, stopping before
    the first piece that runs over lines. -/
def Line.widths (w : World) (l : Line) : List (Nat × Piece × Nat) :=
  go l.leaves.toList 0
where
  go : List Piece -> Nat -> List (Nat × Piece × Nat)
    | [], _ => []
    | p :: ps, i =>
      if (p.shown w).contains '\n' then []
      else
        let width := p.before.length + (p.shown w).length +
          ((l.commentsAfter p.id).toList.map (·.value.length)).sum
        (i, p, width) :: go ps (i + 1)

end Blueprints.Layout
