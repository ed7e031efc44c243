import Blueprints.Layout.Parser
import Blueprints.Layout.Generate
import Blueprints.Layout.Split

namespace Blueprints.Layout

/-- Why a source cannot be laid out. -/
inductive LayoutError where
  | cannotParse (message : String)
  | indentation (line : Nat)
deriving Repr, Inhabited

/-- Whether a text starts with one of some prefixes. -/
def startsWithAny (s : String) (ps : List String) : Bool := ps.any fun p => s.startsWith p

/-- Whether a decorator's expression is a dotted name, perhaps called once at the end. -/
def isSimpleDecorator : Syn -> Bool
  | .leaf l => l.kind == .name
  | .node .power (first :: rest) =>
    let trailer (last : Bool) (t : Syn) : Bool :=
      match t with
      | .node .trailer [a, b] =>
        (a.isOp "." && b.isKind .name) || (last && a.isOp "(" && b.isOp ")")
      | .node .trailer [a, _, c] => last && a.isOp "(" && c.isOp ")"
      | _ => false
    first.isKind .name && ((rest.dropLast).all (trailer false)) &&
      (rest.isEmpty || ((rest.getLast?.map (trailer true)).getD false))
  | _ => false

/-- Whether a node is a star or a double star. -/
def Syn.isStar (s : Syn) : Bool := s.isOp "*" || s.isOp "**"

/-- The version of the language that a token needs, as splits care: `2` for 3.6. -/
def leafNeeds (parent : Sym) (l : Leaf) : Nat :=
  if l.kind == .string &&
      startsWithAny l.value ["f\"", "F\"", "f'", "F'", "rf", "fr", "RF", "FR"] then 2
  else if l.kind == .number && l.value.contains '_' then 2
  else if l.kind == .op && l.tok == "/" &&
      [Sym.typedargslist, .arglist, .varargslist].contains parent then 2
  else if l.kind == .op && l.tok == ":=" then 2
  else 0

/-- The version of the language that a node needs by itself, as splits care: `1` for 3.5 and
    `2` for 3.6. -/
def nodeNeeds (sym : Sym) (cs : List Syn) : Nat :=
  match sym with
  | .decorator =>
    match cs with
    | _ :: e :: _ => if isSimpleDecorator e then 0 else 2
    | _ => 0
  | .typedargslist | .arglist =>
    let trailing := (cs.getLast?.map (·.isOp ",")).getD false
    let starred := cs.any fun c =>
      c.isStar || match c with
        | .node .argument acs => acs.any Syn.isStar
        | _ => false
    if trailing && starred then (if sym == .typedargslist then 2 else 1) else 0
  | .returnStmt | .yieldExpr =>
    match cs with
    | _ :: .node .testlistStarExpr items :: _ =>
      if items.any (·.isSym .starExpr) then 2 else 0
    | _ => 0
  | .annassign =>
    match cs[3]? with
    | some c => if c.isSym .testlistStarExpr then 2 else 0
    | none => 0
  | _ => 0

mutual
/-- The version of the language that a tree needs, as splits care. -/
def Syn.needs (parent : Sym) : Syn -> Nat
  | .leaf l => leafNeeds parent l
  | .node s cs => max (nodeNeeds s cs) (Syn.needsOfChildren s cs)

/-- The version of the language that the children of a node need. -/
def Syn.needsOfChildren (sym : Sym) : List Syn -> Nat
  | [] => 0
  | c :: cs => max (c.needs sym) (Syn.needsOfChildren sym cs)
end

/-- What the splits of a tree may rely on. -/
def featuresOf (tree : Syn) : Features :=
  let level := tree.needs .none
  { callComma := level ≥ 1, defComma := level ≥ 2 }

/-- The record of the lines laid out so far that blank lines depend on. -/
structure Blanks where
  previous : Option Line := none
  previousAfter : Nat := 0
  previousDefs : List Nat := []
deriving Inhabited

/-- Blank lines before and after a definition, a class or a decorator. -/
def Blanks.aroundDefinition (b : Blanks) (line : Line) (before : Nat) : Nat × Nat × Blanks :=
  let b := if line.isDecorator then b else { b with previousDefs := line.depth :: b.previousDefs }
  match b.previous with
  | none => (0, 0, b)
  | some prev =>
    if prev.isDecorator then (0, 0, b)
    else if prev.depth < line.depth && (prev.isClass || prev.isDef) then (0, 0, b)
    else if prev.isComment && prev.depth == line.depth && before == 0 then (0, 0, b)
    else ((if line.depth > 0 then 1 else 2), 0, b)

/-- Blank lines before and after a line, from the blank lines the source has before it. -/
def Blanks.wanted (b : Blanks) (line : Line) : Nat × Nat × Blanks := Id.run do
  let allowed := if line.depth == 0 then 2 else 1
  let mut before := match line.leaves[0]? with
    | some p => min (p.before.toList.filter (· == '\n')).length allowed
    | none => 0
  let depth := line.depth
  let mut b := b
  for _ in [0:b.previousDefs.length] do
    match b.previousDefs with
    | d :: rest =>
      if d ≥ depth then
        b := { b with previousDefs := rest }
        before := if depth > 0 then 1 else 2
      else break
    | [] => break
  if line.isDecorator || line.isDef || line.isClass then return b.aroundDefinition line before
  match b.previous with
  | some prev =>
    if prev.isImport && !line.isImport && depth == prev.depth then
      return (max before 1, 0, b)
    if prev.isClass && line.isTripleQuotedString then return (before, 1, b)
    return (before, 0, b)
  | none => return (before, 0, b)

/-- Blank lines before and after a line, taking away those already asked for after the line
    before it; none at the start of the file. -/
def Blanks.next (b : Blanks) (line : Line) : Nat × Nat × Blanks :=
  let (before, after, b) := b.wanted line
  let before := if b.previous.isNone then 0 else before - b.previousAfter
  (before, after, { b with previousAfter := after, previous := some line })

def breaks (n : Nat) : String := String.ofList (List.replicate n '\n')

/-- The line of a source that a fault is reported on. -/
def faultyLine (src : String) (line : Nat) : String :=
  let lines := textLines src
  let found := if line == 0 then lines.getLast? else lines[line - 1]?
  found.getD "<line number missing in source>"

/-- The tree of a source, or why it cannot be read. -/
def readTree (text : String) : Except LayoutError (Syn × Nat) := do
  let (raw, fault) := tokenize text
  let tokens := grammarTokens raw
  match parseTokens tokens.toArray with
  | .ok tree => pure (tree, tokens.length)
  | .error (.at line col) =>
    throw (.cannotParse ("Cannot parse: " ++ toString line ++ ":" ++ toString col ++ ": " ++
      faultyLine text line))
  | .error .ended =>
    match fault with
    | some (.eof msg line col) =>
      throw (.cannotParse ("Cannot parse: " ++ toString line ++ ":" ++ toString col ++ ": " ++
        msg))
    | some (.dedent line _) => throw (.indentation line)
    | none => throw (.cannotParse "Cannot parse: 0:0: <line number missing in source>")

/-- The lines of one logical line after splitting, written out. -/
def layLine (w : World) (line : Line) (features : Features) : String × World :=
  let (result, w) := (transformLine (8 * line.leaves.size + 64) line features).run.run w
  let lines := match result with
    | .ok ls => ls
    | .error _ => [line]
  (String.join (lines.map (·.render w)), w)

def layoutOnce (src : String) : Except LayoutError String := do
  let text := stripStart src
  let text := if text.endsWith "\n" then text else text ++ "\n"
  let (tree, count) <- readTree text
  let features := featuresOf tree
  let (lines, fresh) := linesOf tree count (20 * count + 100)
  let mut w : World := { fresh }
  let mut blanks : Blanks := {}
  let mut out := ""
  let mut after := 0
  for line in lines do
    out := out ++ breaks after
    let (before, next, b) := blanks.next line
    blanks := b
    after := next
    out := out ++ breaks before
    let (text, w') := layLine w line.trimFirst features
    w := w'
    out := out ++ text
  pure out

/-- A source laid out; laid out a second time when the first changed it. -/
def layout (src : String) : Except LayoutError String := do
  let dst <- layoutOnce src
  if src != dst then layoutOnce dst else pure dst

/-- The layout of a source when it changes anything: `none` for a blank source or one already
    laid out. -/
def layoutChange (src : String) : Except LayoutError (Option String) := do
  if (stripBlanks src).isEmpty then return none
  let dst <- layout src
  pure (if dst == src then none else some dst)

end Blueprints.Layout
