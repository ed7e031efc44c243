import Blueprints.Layout.Spacing

namespace Blueprints.Layout
open Syn

/-- The state of the walk: the line being gathered, the lines done, the next free identity
    for a made token, and the token seen last. -/
structure Walk where
  cur : Line := {}
  out : Array Line := #[]
  fresh : Nat := 0
  last : Option Piece := none
deriving Inhabited

abbrev WalkM := StateM Walk

def freshId : WalkM Nat := modifyGet fun s => (s.fresh, { s with fresh := s.fresh + 1 })

/-- Ends the line being gathered, if it holds anything, and moves the depth by `indent`. -/
def flush (indent : Int := 0) : WalkM Unit := modify fun s =>
  let depth := ((s.cur.depth : Int) + indent).toNat
  if s.cur.isEmpty then { s with cur := { s.cur with depth } }
  else { s with out := s.out.push s.cur, cur := { depth } }

/-- Where a node stands in the tree, as its walk needs to know. -/
structure Ctx where
  parent : Sym := .none
  grand : Sym := .none
  prev : Option Sib := none
  parentLeaves : Nat := 0
  afterAsync : Bool := false
  complexSub : Bool := false
  subList : Bool := false
  firstInBlock : Bool := false
  docstring : Bool := false
deriving Inhabited

def opLeaf (id : Nat) (tok value : String) (before : String := "") : Syn :=
  .leaf (Leaf.mk .op tok value before id 0 0)

/-- What stands before the first token of a tree. -/
def Syn.before (s : Syn) : String := (s.firstLeaf?.map (·.before)).getD ""

/-- A tree wrapped in brackets, written or not; what stood before the tree goes before the
    opening bracket. -/
def wrapParens (child : Syn) (visible : Bool) : WalkM Syn := do
  let l <- freshId
  let r <- freshId
  pure (.node .atom [opLeaf l "(" (if visible then "(" else "") child.before,
    child.withBefore "", opLeaf r ")" (if visible then ")" else "")])

def isEmptyTuple : Syn -> Bool
  | .node .atom [a, b] => a.isOp "(" && b.isOp ")"
  | _ => false

/-- The inside of round brackets around a single part. -/
def unwrapSingleton : Syn -> Option Syn
  | .node .atom [a, m, b] => if a.isOp "(" && b.isOp ")" then some m else none
  | _ => none

/-- Whether a tree is a tuple of one item, with or without brackets. -/
def isOneTuple (s : Syn) : Bool :=
  match s with
  | .node .atom _ =>
    match unwrapSingleton s with
    | some (.node .testlistGexp [_, c]) => c.isOp ","
    | _ => false
  | .node sym [_, c] =>
    (sym == .testlist || sym == .testlistStarExpr || sym == .exprlist) && c.isOp ","
  | _ => false

/-- Whether a tree is a `yield` expression, perhaps in brackets. -/
def isYield : Syn -> Bool
  | .node .yieldExpr _ => true
  | .leaf l => l.kind == .name && l.value == "yield"
  | .node .atom [a, m, b] => a.isOp "(" && b.isOp ")" && isYield m
  | _ => false

/-- Whether a tree is an assignment expression in brackets. -/
def isWalrus (s : Syn) : Bool :=
  match unwrapSingleton s with
  | some (.node .namedexprTest _) => true
  | _ => false

/-- Whether a tree is held in brackets that are not written. -/
def isAtomWithInvisibleParens : Syn -> Bool
  | .node .atom cs =>
    match cs.head?, cs.getLast? with
    | some (.leaf a), some (.leaf b) =>
      a.kind == .op && a.tok == "(" && a.value.isEmpty && b.kind == .op && b.tok == ")" &&
        b.value.isEmpty
    | _, _ => false
  | _ => false

/-- A token of the tree as a piece, with the rules of its parent and grandparent. -/
def Leaf.toPiece (l : Leaf) (parent grand : Sym) (afterAsync : Bool) : Piece :=
  Piece.mk l.id l.kind l.tok l.value l.before parent grand 0 afterAsync false 0 0

def Syn.isAsync : Syn -> Bool
  | .leaf l => l.kind == .name && l.value == "async"
  | .node .. => false

mutual
def Syn.piecesIn (parent grand : Sym) (afterAsync : Bool) : Syn -> List Piece
  | .leaf l => [l.toPiece parent grand afterAsync]
  | .node s cs => Syn.piecesOfChildren s parent false cs

/-- The tokens of the children of a node as pieces. -/
def Syn.piecesOfChildren (sym grand : Sym) (afterAsync : Bool) : List Syn -> List Piece
  | [] => []
  | c :: cs => c.piecesIn sym grand afterAsync ++ Syn.piecesOfChildren sym grand c.isAsync cs
end

/-- The highest priority of the delimiters inside round brackets, or zero. -/
def maxPriorityInAtom (s : Syn) : Nat :=
  match s with
  | .node .atom cs =>
    match cs.head?, cs.getLast? with
    | some first, some last =>
      if first.isOp "(" && last.isOp ")" then
        let inner := (cs.drop 1).dropLast
        let pieces := Syn.piecesOfChildren .atom .none false inner
        let t := pieces.foldl (fun t p => (t.mark {} p).1) ({} : Tracker)
        t.maxPriority.getD 0
      else 0
    | _, _ => 0
  | _ => 0

/-- Makes redundant round brackets invisible, and those inside them, dropping invisible
    brackets directly inside others. Brackets stay around an empty tuple, a tuple, a `yield`
    and an assignment expression. Returns whether the tree should be wrapped in invisible
    brackets, as a bracketed display or other atom without round brackets should. -/
def makeParensInvisible : Syn -> Syn × Bool
  | .node .atom [.leaf a, m, .leaf b] =>
    let node := Syn.node .atom [.leaf a, m, .leaf b]
    if isEmptyTuple node || isOneTuple node || isYield node ||
        maxPriorityInAtom node ≥ commaPriority || isWalrus node then (node, false)
    else if a.kind == .op && a.tok == "(" && b.kind == .op && b.tok == ")" then
      let m := (makeParensInvisible m).1
      let m := if isAtomWithInvisibleParens m then
          match m with
          | .node _ [_, inner, _] => inner
          | other => other
        else m
      (.node .atom [.leaf { a with value := "" }, m, .leaf { b with value := "" }], false)
    else (node, true)
  | .node .atom cs =>
    let node := Syn.node .atom cs
    if isEmptyTuple node || isOneTuple node || isYield node || isWalrus node then (node, false)
    else (node, true)
  | s => (s, false)

/-- Invisible brackets for the children of a statement, after the keywords and operators in
    `parensAfter`, and around a tuple being assigned to. Does not look into annotations. -/
def normalizeParensFlat (sym : Sym) (parensAfter : List String) (children : List Syn) :
    WalkM (List Syn) := do
  let arr := children.toArray
  let mut out : Array Syn := #[]
  let mut check := false
  for i in [0:arr.size] do
    let orig := arr[i]?.getD default
    let mut child := orig
    if i == 0 && child.isSym .testlistStarExpr then check := true
    if check then
      if child.isSym .atom then
        let (c, wrap) := makeParensInvisible child
        child <- if wrap then wrapParens c false else pure c
      else if isOneTuple child then
        child <- wrapParens child true
      else if sym == .importFrom then
        let rest := (arr.extract (i + 1) arr.size).toList
        if child.isOp "(" then
          let hide : Syn -> Syn := fun s => match s with
            | .leaf l => .leaf { l with value := "" }
            | other => other
          let middle := rest.dropLast
          let closing := (rest.getLast?.map hide).toList
          return out.toList ++ [hide child] ++ middle ++ closing
        else if !child.isOp "*" then
          let l <- freshId
          let r <- freshId
          return out.toList ++ [opLeaf l "(" "", child] ++ rest ++ [opLeaf r ")" ""]
        else return out.toList ++ [child] ++ rest
      else
        match child with
        | .leaf l => if !(l.kind == .string && isMultilineString l.value) then
            child <- wrapParens child false
        | .node .. => child <- wrapParens child false
    out := out.push child
    check := match orig with
      | .leaf l => parensAfter.contains l.value
      | .node .. => false
  pure out.toList

/-- Invisible brackets for the children of a statement, looking into an annotation. -/
def normalizeParens (sym : Sym) (parensAfter : List String) (children : List Syn) :
    WalkM (List Syn) := do
  let children <- children.mapM fun c => match c with
    | .node .annassign cs => do pure (.node .annassign (<- normalizeParensFlat .annassign parensAfter cs))
    | other => pure other
  normalizeParensFlat sym parensAfter children

def assignments : List String :=
  ["=", ":=", "+=", "-=", "*=", "@=", "/=", "%=", "&=", "|=", "^=", "<<=", ">>=", "**=", "//="]

/-- For a statement's rule: the keywords that start a line, and the words after which its
    expressions get invisible brackets. -/
def statementRules : Sym -> Option (List String × List String)
  | .assertStmt => some (["assert"], ["assert", ","])
  | .ifStmt => some (["if", "else", "elif"], ["if", "elif"])
  | .whileStmt => some (["while", "else"], ["while"])
  | .forStmt => some (["for", "else"], ["for", "in"])
  | .tryStmt => some (["try", "except", "else", "finally"], [])
  | .exceptClause => some (["except"], [])
  | .withStmt => some (["with"], [])
  | .funcdef => some (["def"], [])
  | .classdef => some (["class"], [])
  | .exprStmt => some ([], assignments)
  | .returnStmt => some (["return"], ["return"])
  | .importFrom => some ([], ["import"])
  | .delStmt => some (["del"], ["del"])
  | _ => none

/-- The rules of statements whose body may stand on their own line. -/
def blockRules : List Sym :=
  [.ifStmt, .whileStmt, .forStmt, .tryStmt, .exceptClause, .withStmt, .funcdef, .classdef]

/-- Invisible brackets around an arithmetic expression that starts a statement. -/
def wrapArithmetic (children : List Syn) : WalkM (List Syn) := do
  let mut out : Array Syn := #[]
  let mut afterStart := true
  for c in children do
    let arith := [Sym.arithExpr, .shiftExpr, .xorExpr, .andExpr].any c.isSym
    out := out.push (<- if afterStart && arith then wrapParens c false else pure c)
    afterStart := c.isOp ";"
  pure out.toList

/-- Written brackets around the power in a unary minus before a power: `-(x ** y)`. -/
def bracketPower (children : List Syn) : WalkM (List Syn) := do
  match children with
  | [op, operand@(.node .power [_, d, _])] =>
    if d.isOp "**" then
      let l <- freshId
      let r <- freshId
      pure [op, .node .atom [opLeaf l "(" "(", operand, opLeaf r ")" ")"]]
    else pure children
  | _ => pure children

/-- Written brackets around a number that a dot follows: `(1).real`. -/
def bracketNumbers (children : List Syn) : WalkM (List Syn) := do
  let arr := children.toArray
  let mut out : Array Syn := #[]
  for i in [0:arr.size] do
    let c := arr[i]?.getD default
    let next := arr[i + 1]?
    let dotted := match next with
      | some (.node .trailer (d :: _)) => d.isOp "."
      | _ => false
    match c with
    | .leaf l =>
      let v := l.value.toLower
      if l.kind == .number && dotted && !v.startsWith "0x" && !v.startsWith "0b" &&
          !v.startsWith "0o" && !v.contains 'j' then
        out := out.push (<- wrapParens c true)
      else out := out.push c
    | _ => out := out.push c
  pure out.toList

def hasPart (s part : String) : Bool := (s.splitOn part).length > 1

/-- Adds a piece to the line being gathered, with the given blank before it. -/
def appendPiece (p : Piece) (space : String) : WalkM Unit :=
  modify fun s => { s with cur := s.cur.append {} p false space }

/-- Takes in a token: its comments, its prefix, its spelling, and its place on the line. The
    comments before the step out of a block stand on their own lines. -/
def visitLeaf (ctx : Ctx) (l : Leaf) (blockEnd : Bool := false) : WalkM Unit := do
  let anyOpen := (<- get).cur.tracker.anyOpen
  for r in listRemarks l.before (l.kind == .endmarker) do
    let id <- freshId
    let standalone := r.standalone || blockEnd
    let kind : TokenKind := if standalone then .standalone else .comment
    let c : Piece :=
      { id, kind, tok := "", value := r.text,
        before := String.ofList (List.replicate r.newlines '\n'), loose := true }
    let space := if standalone then "" else "  "
    if anyOpen then appendPiece c space
    else if !standalone then
      appendPiece c space
      flush
    else
      flush
      appendPiece c space
      flush
  let pre := normalizePrefix l.before anyOpen
  let value :=
    if l.kind == .string then normalizeStringQuotes (normalizeStringPrefix l.value)
    else if l.kind == .number then normalizeNumber l.value else l.value
  let piece : Piece :=
    { id := l.id, kind := l.kind, tok := l.tok, value, before := pre, parent := ctx.parent,
      grand := ctx.grand, parentLeaves := ctx.parentLeaves, afterAsync := ctx.afterAsync }
  if l.kind == .newline || l.kind == .indent || l.kind == .dedent then
    modify fun s => { s with last := some piece }
  else
    let st <- get
    let near : Near :=
      { parent := ctx.parent, grand := ctx.grand, prev := ctx.prev, last := st.last,
        complexSub := ctx.complexSub && st.cur.tracker.openSquare?.isSome }
    let space := spaceBefore l.kind l.tok value near
    let placed := if st.cur.leaves.isEmpty then pre else pre ++ space
    let cur := st.cur.append {} piece false space
    set { st with cur, last := some { piece with before := placed } }

/-- Takes in a token by its kind: indentation, the end of a block, the end of the file, a
    semicolon, a docstring, or any other. -/
def walkLeaf (ctx : Ctx) (l : Leaf) : WalkM Unit := do
  match l.kind with
  | .indent =>
    flush 1
    visitLeaf ctx l
  | .dedent =>
    visitLeaf ctx l true
    flush
    flush (-1)
  | .endmarker =>
    visitLeaf ctx l
    flush
  | _ =>
    if l.kind == .op && l.tok == ";" then
      flush
      let p := l.toPiece ctx.parent ctx.grand ctx.afterAsync
      modify fun s => { s with last := some p }
    else if l.kind == .string && ctx.docstring && !hasPart l.value "\\\n" then
      let depth := (<- get).cur.depth
      visitLeaf ctx { l with value := formatDocstring l.value depth }
    else visitLeaf ctx l

def Syn.sib : Syn -> Sib
  | .leaf l => .leaf l.kind l.tok
  | .node s _ => .node s

def Syn.isOpening (s : Syn) : Bool := s.isOp "(" || s.isOp "[" || s.isOp "\x7b"

def Syn.isClosing (s : Syn) : Bool := s.isOp ")" || s.isOp "]" || s.isOp "\x7d"

/-- Whether a tree holds a rule that makes a subscript complex. -/
def Syn.isComplex (s : Syn) : Bool := s.syms.any complexRules.contains

mutual
def walk : Nat -> Ctx -> Syn -> WalkM Unit
  | 0, _, _ => pure ()
  | _ + 1, ctx, .leaf l => walkLeaf ctx l
  | fuel + 1, ctx, .node sym cs => do
    match statementRules sym with
    | some (keywords, parens) =>
      let cs <- normalizeParens sym parens cs
      walkChildren fuel ctx sym cs (fun c => match c with
        | .leaf l => l.kind == .name && keywords.contains l.value
        | .node .. => false)
    | none =>
      match sym with
      | .simpleStmt =>
        let cs <- wrapArithmetic cs
        if blockRules.contains ctx.parent then
          flush 1
          walkChildren fuel ctx sym cs (fun _ => false)
          flush (-1)
        else
          flush
          walkChildren fuel ctx sym cs (fun _ => false)
      | .asyncStmt | .asyncFuncdef =>
        flush
        match cs with
        | [a, .node inner ics] =>
          walkChildren fuel ctx sym [a] (fun _ => false)
          let here : Ctx :=
            { parent := sym, grand := ctx.parent, prev := some a.sib,
              parentLeaves := (Syn.node sym cs).leaves.length, afterAsync := a.isAsync }
          walkChildren fuel here inner ics (fun _ => false)
        | _ => walkChildren fuel ctx sym cs (fun _ => false)
      | .decorated | .decorators => walkChildren fuel ctx sym cs (fun _ => true)
      | .factor => walkChildren fuel ctx sym (<- bracketPower cs) (fun _ => false)
      | .power => walkChildren fuel ctx sym (<- bracketNumbers cs) (fun _ => false)
      | _ => walkChildren fuel ctx sym cs (fun _ => false)

/-- Walks the children of a node of rule `sym` standing at `ctx`, ending the line before each
    child that `breakBefore` picks. -/
def walkChildren : Nat -> Ctx -> Sym -> List Syn -> (Syn -> Bool) -> WalkM Unit
  | 0, _, _, _, _ => pure ()
  | fuel + 1, ctx, sym, cs, breakBefore => do
    let arr : Array Syn := cs.toArray
    let rule : Sym := sym
    let count := (Syn.node sym cs).leaves.length
    let mut region : Option (Bool × Nat) := none
    for i in [0:arr.size] do
      let c : Syn := arr[i]?.getD default
      let prev : Option Syn := if i == 0 then none else arr[i - 1]?
      let base := if ctx.subList then c.isComplex else ctx.complexSub
      let (complexSub, subList) := match region with
        | some (cx, j) =>
          (cx, i == j + 1 && c.isSym .subscriptlist && ((arr[j]?.map (isOp · "[")).getD false))
        | none => (base, false)
      let firstInBlock := rule == Sym.suite && i == 2 &&
        ((arr[0]?.map (isKind · .newline)).getD false) &&
        ((arr[1]?.map (isKind · .indent)).getD false)
      let docstring := rule == Sym.simpleStmt && ctx.firstInBlock && c.isKind .string
      let afterAsync := (prev.map Syn.isAsync).getD false
      let here : Ctx :=
        { parent := sym, grand := ctx.parent, prev := prev.map Syn.sib, parentLeaves := count,
          afterAsync, complexSub, subList, firstInBlock, docstring }
      if breakBefore c then flush
      walk fuel here c
      if c.isOpening then
        let next := arr[i + 1]?
        let cx := if c.isOp "[" then
            match next with
            | some n => !n.isSym .listmaker && !n.isSym .subscriptlist && n.isComplex
            | none => false
          else false
        region := some (cx, i)
      else if c.isClosing then region := none
end

/-- The logical lines of a tree, and the next free identity; identities from `fresh` on are
    free for tokens made by the layout. -/
def linesOf (tree : Syn) (fresh : Nat) (fuel : Nat) : Array Line × Nat :=
  let (_, st) := (walk fuel {} tree).run { fresh }
  let out := if st.cur.isEmpty then st.out else st.out.push st.cur
  (out, st.fresh)

end Blueprints.Layout
