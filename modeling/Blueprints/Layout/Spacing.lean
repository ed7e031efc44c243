import Blueprints.Layout.Lines

namespace Blueprints.Layout

/-- The previous sibling of a node in the tree. -/
inductive Sib where
  | leaf (kind : TokenKind) (tok : String)
  | node (sym : Sym)
deriving Repr, Inhabited

/-- Whether a sibling is the operator `s`. -/
def Sib.isOp : Sib -> String -> Bool
  | .leaf k t, s => k == .op && t == s
  | .node _, _ => false

/-- Whether a sibling is an opening bracket. -/
def Sib.isOpening (s : Sib) : Bool := s.isOp "(" || s.isOp "[" || s.isOp "\x7b"

/-- Where a token stands: what its spacing depends on besides the token itself. -/
structure Near where
  parent : Sym
  grand : Sym
  prev : Option Sib
  last : Option Piece
  complexSub : Bool

/-- The rules of the tree whose presence makes a subscript complex. -/
def complexRules : List Sym :=
  [.test, .lambdef, .orTest, .andTest, .notTest, .comparison, .starExpr, .expr, .xorExpr,
    .andExpr, .shiftExpr, .arithExpr, .trailer, .term, .power]

/-- The blank written before a token that follows others on its line. -/
def spaceBefore (kind : TokenKind) (tok value : String) (n : Near) : String := Id.run do
  let isOp (s : String) : Bool := kind == .op && tok == s
  let prevIs (s : String) : Bool := (n.prev.map (·.isOp s)).getD false
  let lastIs (s : String) : Bool := (n.last.map (·.isOp s)).getD false
  if kind == .standalone || (kind == .op && [")", "]", "\x7d", ",", ";"].contains tok) then
    return ""
  if kind == .comment then return "  "
  if isOp ":" && !([Sym.subscript, .subscriptlist, .sliceop].contains n.parent) then return ""
  match n.prev with
  | none =>
    match n.last with
    | none => return ""
    | some pp =>
      if pp.isOpening then return ""
      if isOp ":" then
        if pp.isOp ":" then return ""
        else if !pp.isOp "," && !n.complexSub then return ""
        else return " "
      if pp.isOp "=" then
        if [Sym.arglist, .argument, .parameters, .varargslist].contains pp.parent then return ""
        else if pp.parent == .typedargslist then return pp.before
      else if pp.isOp "*" || pp.isOp "**" || pp.isOp "/" then
        if pp.isVararg (varargsParents ++ unpackingParents) then return ""
      else if pp.isOp ":" then
        if pp.parent == .subscript || pp.parent == .sliceop then
          return (if n.complexSub then " " else "")
      else if pp.parent == .factor && pp.kind == .op && mathPriority pp.tok > 0 then
        return ""
      else if pp.isOp "@" && n.grand == .decorator then return ""
  | some s => if s.isOpening then return ""
  let p := n.parent
  if p == .parameters || p == .arglist then
    if n.prev.isNone || !prevIs "," then return ""
  else if p == .varargslist then
    if n.prev.isSome && !prevIs "," then return ""
  else if p == .typedargslist then
    match n.prev with
    | none => return ""
    | some s =>
      if isOp "=" then
        match s with
        | .node .tname => pure ()
        | _ => return ""
      else if s.isOp "=" then return ((n.last.map (·.before)).getD "")
      else if !s.isOp "," then return ""
  else if p == .tname then
    if n.prev.isNone && !lastIs "," then return ""
  else if p == .trailer then
    if isOp "(" || isOp ")" then return ""
    if n.prev.isNone then
      if isOp "." then
        if !((n.last.map (·.kind == .number)).getD false) then return ""
      else if isOp "[" then return ""
    else if !prevIs "," then return ""
  else if p == .argument then
    if isOp "=" then return ""
    if n.prev.isNone then
      if n.last.isNone || lastIs "(" then return ""
    else if prevIs "=" || prevIs "*" || prevIs "**" || prevIs "/" then return ""
  else if p == .decorator then return ""
  else if p == .dottedName then
    if n.prev.isSome then return ""
    if n.last.isNone || lastIs "@" || lastIs "." then return ""
  else if p == .classdef then
    if isOp "(" then return ""
    if prevIs "(" then return ""
  else if p == .subscript || p == .sliceop then
    if n.prev.isNone then
      return (if n.grand == .subscriptlist then " " else "")
    else if !n.complexSub then return ""
  else if p == .atom then
    if n.prev.isSome && isOp "." then return ""
  else if p == .dictsetmaker then
    if prevIs "**" then return ""
  else if p == .factor || p == .starExpr then
    if n.prev.isNone then
      match n.last with
      | none => return ""
      | some pp =>
        if pp.isOpening then return ""
        if pp.isOp ":" && (pp.parent == .subscript || pp.parent == .sliceop) then return ""
        else if pp.isOp "=" && pp.parent == .argument then return ""
    else if kind == .name || kind == .number || kind == .string then return ""
  else if p == .importFrom then
    if isOp "." then
      if prevIs "." then return ""
    else if kind == .name then
      if value == "import" then return " "
      if prevIs "." then return ""
  " "

end Blueprints.Layout
