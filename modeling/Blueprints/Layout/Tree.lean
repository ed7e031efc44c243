import Blueprints.Layout.Lexer

namespace Blueprints.Layout

/-- The rules of the grammar that make nodes. -/
inductive Sym where
  | fileInput | decorator | decorators | decorated | asyncFuncdef | asyncStmt | funcdef
  | parameters | typedargslist | tname | tnameStar | varargslist | simpleStmt | exprStmt
  | annassign | testlistStarExpr | delStmt | returnStmt | raiseStmt | yieldExpr | yieldArg
  | importName | importFrom | importAsName | dottedAsName | importAsNames | dottedAsNames
  | dottedName | globalStmt | assertStmt | ifStmt | whileStmt | forStmt | tryStmt | withStmt
  | exceptClause | suite | namedexprTest | asexprTest | test | lambdef | orTest | andTest
  | notTest | comparison | compOp | starExpr | expr | xorExpr | andExpr | shiftExpr
  | arithExpr | term | factor | power | atom | listmaker | testlistGexp | trailer
  | subscriptlist | subscript | sliceop | exprlist | testlist | dictsetmaker | classdef
  | arglist | argument | compFor | compIf | oldCompFor | oldCompIf | testlistSafe
  | none
deriving Repr, Inhabited, BEq

/-- A token of the tree. -/
structure Leaf where
  kind : TokenKind
  tok : String
  value : String
  before : String
  id : Nat
  line : Nat := 0
  col : Nat := 0
deriving Repr, Inhabited

/-- A syntax tree. -/
inductive Syn where
  | leaf (l : Leaf)
  | node (sym : Sym) (children : List Syn)
deriving Repr, Inhabited

/-- A node of a rule, or its only part when it has one. -/
def Syn.mk (sym : Sym) : List Syn -> Syn
  | [c] => c
  | cs => .node sym cs

/-- Whether a tree is a leaf of an operator. -/
def Syn.isOp (s : Syn) (o : String) : Bool :=
  match s with
  | .leaf l => l.kind == .op && l.tok == o
  | .node .. => false

/-- Whether a tree is a leaf of a name with this text. -/
def Syn.isName (s : Syn) (n : String) : Bool :=
  match s with
  | .leaf l => l.kind == .name && l.value == n
  | .node .. => false

/-- The rule of a tree's root, if it is a node. -/
def Syn.sym? : Syn -> Option Sym
  | .node s _ => some s
  | .leaf _ => none

def Syn.isSym (s : Syn) (sym : Sym) : Bool := s.sym? == some sym

def Syn.isKind (s : Syn) (k : TokenKind) : Bool :=
  match s with
  | .leaf l => l.kind == k
  | .node .. => false

mutual
def Syn.leaves : Syn -> List Leaf
  | .leaf l => [l]
  | .node _ cs => Syn.leavesOf cs

def Syn.leavesOf : List Syn -> List Leaf
  | [] => []
  | c :: cs => c.leaves ++ Syn.leavesOf cs
end

mutual
/-- The rules of the nodes of a tree, the root first. -/
def Syn.syms : Syn -> List Sym
  | .leaf _ => []
  | .node s cs => s :: Syn.symsOf cs

def Syn.symsOf : List Syn -> List Sym
  | [] => []
  | c :: cs => c.syms ++ Syn.symsOf cs
end

def Syn.firstLeaf? (s : Syn) : Option Leaf := s.leaves.head?

mutual
/-- A tree whose first leaf has another prefix. -/
def Syn.withBefore (p : String) : Syn -> Syn
  | .leaf l => .leaf { l with before := p }
  | .node s cs => .node s (Syn.withBeforeFirst p cs)

/-- Trees whose first leaf has another prefix. -/
def Syn.withBeforeFirst (p : String) : List Syn -> List Syn
  | [] => []
  | c :: cs => c.withBefore p :: cs
end

/-- A token as the grammar reads it, with what stands before it. -/
structure GToken where
  kind : TokenKind
  value : String
  before : String
  line : Nat
  col : Nat
deriving Repr, Inhabited

/-- Splits the prefix before a step out of a block at column `column`: the whole lines that
    are indented at least as deep stay with the step, the rest goes on. -/
def splitAtDedent (pre : String) (column : Nat) : String × String :=
  go pre.toList [] "" 0 false
where
  go : List Char -> List String -> String -> Nat -> Bool -> String × String
    | [], lines, current, _, _ => (String.join lines.reverse, current)
    | c :: rest, lines, current, col, waiting =>
      let current := current.push c
      if waiting then
        if c == '\n' then
          if !current.trimAscii.isEmpty && col < column then
            let kept := String.join lines.reverse
            (kept, String.ofList (pre.toList.drop kept.length))
          else go rest (current :: lines) "" 0 false
        else go rest lines current col waiting
      else if c == ' ' then go rest lines current (col + 1) false
      else if c == '\t' then go rest lines current (col + 4) false
      else if c == '\n' then go rest lines current 0 false
      else go rest lines current col true

/-- The characters of a text from one column to another. -/
def columns (text : String) (a b : Nat) : String :=
  String.ofList ((text.toList.drop a).take (b - a))

/-- The tokens of the grammar, each with the prefix before it. -/
def grammarTokens (raw : List RawToken) : List GToken := Id.run do
  let mut out : Array GToken := #[]
  let mut pre := ""
  let mut lineno := 1
  let mut column := 0
  let mut indents : List Nat := []
  for t in raw do
    if (t.line, t.col) != (lineno, column) then
      if lineno < t.line then
        pre := pre ++ String.ofList (List.replicate (t.line - lineno) '\n')
        lineno := t.line
        column := 0
      if column < t.col then
        pre := pre ++ columns t.text column t.col
        column := t.col
    if t.kind == .comment || t.kind == .nl then
      pre := pre ++ t.value
      lineno := t.endLine
      column := t.endCol
      if t.value.endsWith "\n" then
        lineno := lineno + 1
        column := 0
      continue
    let mut value := t.value
    match t.kind with
    | .indent =>
      indents := t.value.length :: indents
      out := out.push (GToken.mk .indent "" "" t.line t.col)
      pre := pre ++ t.value
      value := ""
    | .dedent =>
      let col := indents.headD 0
      indents := indents.drop 1
      let (kept, rest) := splitAtDedent pre col
      out := out.push (GToken.mk .dedent "" kept t.line t.col)
      pre := rest
    | k =>
      out := out.push (GToken.mk k t.value pre t.line t.col)
      pre := ""
    lineno := t.endLine
    column := t.endCol
    if value.endsWith "\n" then
      lineno := lineno + 1
      column := 0
  out.toList

end Blueprints.Layout
