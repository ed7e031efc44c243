import Blueprints.Layout.Tree

namespace Blueprints.Layout
open Syn

/-- Why a source cannot be read. -/
inductive ParseFail where
  | at (line col : Nat)
  | ended
deriving Repr, Inhabited

/-- The reader of tokens: the tokens, and the position of the next one. -/
abbrev Parse := ReaderT (Array GToken) (StateT Nat (Except ParseFail))

/-- The words of the grammar that are not names: the keywords other than the three constants. -/
def keywords : List String := Text.keywords.drop 3

def GToken.isKw (t : GToken) (s : String) : Bool := t.kind == .name && t.value == s

def GToken.isOp (t : GToken) (s : String) : Bool := t.kind == .op && t.value == s

/-- Whether a token is a name that is not a keyword. -/
def GToken.isPlainName (t : GToken) : Bool := t.kind == .name && !keywords.contains t.value

/-- Whether a token can start an expression of the bitwise level and below. -/
def GToken.startsExpr (t : GToken) : Bool :=
  t.isPlainName || t.isKw "await" || t.kind == .number || t.kind == .string ||
    ["(", "[", "\x7b", "-", "+", "~", ".", "`"].any t.isOp

/-- Whether a token can start a test: an expression, a negation or a lambda. -/
def GToken.startsTest (t : GToken) : Bool :=
  t.startsExpr || t.isKw "not" || t.isKw "lambda"

/-- Whether a token can start a test or a starred expression. -/
def GToken.startsTestOrStar (t : GToken) : Bool := t.startsTest || t.isOp "*"

def augmentedOperators : List String :=
  ["+=", "-=", "*=", "@=", "/=", "%=", "&=", "|=", "^=", "<<=", ">>=", "**=", "//="]

/-- The next token; past the end of the tokens, reading fails as the tokens ran out. -/
def peek : Parse GToken := do
  let ts <- read
  match ts[<- get]? with
  | some t => pure t
  | none => throw .ended

/-- The token after the next one, if there is one. -/
def peekSecond : Parse (Option GToken) := do
  let ts <- read
  pure ts[(<- get) + 1]?

def failHere {α : Type} : Parse α := do
  let t <- peek
  throw (.at t.line t.col)

/-- Takes the next token as a leaf; its identity is its position. -/
def take : Parse Syn := do
  let t <- peek
  let i <- get
  set (i + 1)
  pure (.leaf (Leaf.mk t.kind t.value t.value t.before i t.line t.col))

/-- Takes the next token when it passes the test, and fails otherwise. -/
def expect (p : GToken -> Bool) : Parse Syn := do
  if p (<- peek) then take else failHere

def expectOp (s : String) : Parse Syn := expect (·.isOp s)

def expectKw (s : String) : Parse Syn := expect (·.isKw s)

def expectName : Parse Syn := expect GToken.isPlainName

def nextIs (p : GToken -> Bool) : Parse Bool := do pure (p (<- peek))

/-- Items separated by commas, the list perhaps ending with one: a comma is followed by
    another item only when the next token can start one. -/
def commaList (sym : Sym) (starts : GToken -> Bool) (item : Parse Syn) : Parse Syn := do
  let first <- item
  let mut parts := #[first]
  let ts <- read
  for _ in [0:ts.size] do
    if !(<- nextIs (·.isOp ",")) then break
    parts := parts.push (<- take)
    if !(<- nextIs starts) then break
    parts := parts.push (<- item)
  pure (mk sym parts.toList)

/-- Operands joined by operators of one level, read from the left. -/
def chain (sym : Sym) (isOperator : GToken -> Bool) (operand : Parse Syn) : Parse Syn := do
  let first <- operand
  let mut parts := #[first]
  let ts <- read
  for _ in [0:ts.size] do
    if !(<- nextIs isOperator) then break
    parts := parts.push (<- take)
    parts := parts.push (<- operand)
  pure (mk sym parts.toList)

/-- Whether the next tokens start a comprehension: `for`, or `async for`. -/
def startsComprehension : Parse Bool := do
  let t <- peek
  if t.isKw "for" then return true
  if t.isKw "async" then
    return ((<- peekSecond).map (·.isKw "for")).getD false
  pure false

/-- Runs out of fuel: no real source nests this deep. -/
def outOfFuel {α : Type} : Parse α := failHere

mutual

/-- `test: or_test ['if' or_test 'else' test] | lambdef` -/
def pTest : Nat -> Parse Syn
  | 0 => outOfFuel
  | n + 1 => do
    if <- nextIs (·.isKw "lambda") then return <- pLambdef false n
    let a <- pOrTest n
    if <- nextIs (·.isKw "if") then
      let i <- take
      let b <- pOrTest n
      let e <- expectKw "else"
      let c <- pTest n
      return .node .test [a, i, b, e, c]
    pure a

def pOldTest : Nat -> Parse Syn
  | 0 => outOfFuel
  | n + 1 => do
    if <- nextIs (·.isKw "lambda") then pLambdef true n else pOrTest n

/-- `lambdef: 'lambda' [varargslist] ':' test`, its body an old test inside comprehensions. -/
def pLambdef (old : Bool) : Nat -> Parse Syn
  | 0 => outOfFuel
  | n + 1 => do
    let l <- take
    let args <- if <- nextIs (·.isOp ":") then pure [] else pure [<- pVarargslist n]
    let c <- expectOp ":"
    let body <- if old then pOldTest n else pTest n
    pure (.node .lambdef ([l] ++ args ++ [c, body]))

/-- `varargslist`: the parameters of a lambda. -/
def pVarargslist : Nat -> Parse Syn
  | 0 => outOfFuel
  | n + 1 => do
    let mut parts : Array Syn := #[]
    let ts <- read
    for _ in [0:ts.size] do
      let t <- peek
      if t.isOp "*" then
        parts := parts.push (<- take)
        if <- nextIs GToken.isPlainName then parts := parts.push (<- take)
      else if t.isOp "**" then
        parts := parts.push (<- take)
        parts := parts.push (<- expectName)
      else if t.isOp "/" then
        parts := parts.push (<- take)
      else
        parts := parts.push (<- pVfpdef n)
        if <- nextIs (·.isOp "=") then
          parts := parts.push (<- take)
          parts := parts.push (<- pTest n)
      if !(<- nextIs (·.isOp ",")) then break
      parts := parts.push (<- take)
      if <- nextIs (·.isOp ":") then break
    pure (mk .varargslist parts.toList)

def pVfpdef : Nat -> Parse Syn
  | 0 => outOfFuel
  | n + 1 => do
    if <- nextIs (·.isOp "(") then
      let o <- take
      let inner <- commaList .varargslist (·.startsExpr) (pVfpdef n)
      let c <- expectOp ")"
      pure (.node .atom [o, inner, c])
    else expectName

def pOrTest : Nat -> Parse Syn
  | 0 => outOfFuel
  | n + 1 => chain .orTest (·.isKw "or") (pAndTest n)

/-- `and_test: not_test ('and' not_test)*` -/
def pAndTest : Nat -> Parse Syn
  | 0 => outOfFuel
  | n + 1 => chain .andTest (·.isKw "and") (pNotTest n)

/-- `not_test: 'not' not_test | comparison` -/
def pNotTest : Nat -> Parse Syn
  | 0 => outOfFuel
  | n + 1 => do
    if <- nextIs (·.isKw "not") then
      let k <- take
      let x <- pNotTest n
      pure (.node .notTest [k, x])
    else pComparison n

def pComparison : Nat -> Parse Syn
  | 0 => outOfFuel
  | n + 1 => do
    let first <- pExpr n
    let mut parts := #[first]
    let ts <- read
    for _ in [0:ts.size] do
      let t <- peek
      if ["<", ">", "==", ">=", "<=", "<>", "!="].any t.isOp || t.isKw "in" then
        parts := parts.push (<- take)
      else if t.isKw "not" then
        let k <- take
        let i <- expectKw "in"
        parts := parts.push (.node .compOp [k, i])
      else if t.isKw "is" then
        let k <- take
        if <- nextIs (·.isKw "not") then
          let m <- take
          parts := parts.push (.node .compOp [k, m])
        else parts := parts.push k
      else break
      parts := parts.push (<- pExpr n)
    pure (mk .comparison parts.toList)

def pStarExpr : Nat -> Parse Syn
  | 0 => outOfFuel
  | n + 1 => do
    let s <- take
    let e <- pExpr n
    pure (.node .starExpr [s, e])

def pTestOrStar : Nat -> Parse Syn
  | 0 => outOfFuel
  | n + 1 => do
    if <- nextIs (·.isOp "*") then pStarExpr n else pTest n

/-- An expression of the bitwise level, or a starred one. -/
def pExprOrStar : Nat -> Parse Syn
  | 0 => outOfFuel
  | n + 1 => do
    if <- nextIs (·.isOp "*") then pStarExpr n else pExpr n

def pExpr : Nat -> Parse Syn
  | 0 => outOfFuel
  | n + 1 => chain .expr (·.isOp "|") (pXorExpr n)

def pXorExpr : Nat -> Parse Syn
  | 0 => outOfFuel
  | n + 1 => chain .xorExpr (·.isOp "^") (pAndExpr n)

/-- `and_expr: shift_expr ('&' shift_expr)*` -/
def pAndExpr : Nat -> Parse Syn
  | 0 => outOfFuel
  | n + 1 => chain .andExpr (·.isOp "&") (pShiftExpr n)

/-- `shift_expr: arith_expr (('<<'|'>>') arith_expr)*` -/
def pShiftExpr : Nat -> Parse Syn
  | 0 => outOfFuel
  | n + 1 => chain .shiftExpr (fun t => t.isOp "<<" || t.isOp ">>") (pArithExpr n)

def pArithExpr : Nat -> Parse Syn
  | 0 => outOfFuel
  | n + 1 => chain .arithExpr (fun t => t.isOp "+" || t.isOp "-") (pTerm n)

/-- `term: factor (('*'|'@'|'/'|'%'|'//') factor)*` -/
def pTerm : Nat -> Parse Syn
  | 0 => outOfFuel
  | n + 1 => chain .term (fun t => ["*", "@", "/", "%", "//"].any t.isOp) (pFactor n)

/-- `factor: ('+'|'-'|'~') factor | power` -/
def pFactor : Nat -> Parse Syn
  | 0 => outOfFuel
  | n + 1 => do
    if <- nextIs (fun t => ["+", "-", "~"].any t.isOp) then
      let o <- take
      let f <- pFactor n
      pure (.node .factor [o, f])
    else pPower n

/-- `power: [AWAIT] atom trailer* ['**' factor]` -/
def pPower : Nat -> Parse Syn
  | 0 => outOfFuel
  | n + 1 => do
    let mut parts : Array Syn := #[]
    if <- nextIs (·.isKw "await") then parts := parts.push (<- take)
    parts := parts.push (<- pAtom n)
    let ts <- read
    for _ in [0:ts.size] do
      if !(<- nextIs (fun t => t.isOp "(" || t.isOp "[" || t.isOp ".")) then break
      parts := parts.push (<- pTrailer n)
    if <- nextIs (·.isOp "**") then
      parts := parts.push (<- take)
      parts := parts.push (<- pFactor n)
    pure (mk .power parts.toList)

/-- `atom`: a bracketed expression, a name, a number, strings side by side, or `...`. -/
def pAtom : Nat -> Parse Syn
  | 0 => outOfFuel
  | n + 1 => do
    let t <- peek
    if t.isOp "(" then
      let o <- take
      if <- nextIs (·.isOp ")") then return .node .atom [o, <- take]
      let inner <- if <- nextIs (·.isKw "yield") then pYieldExpr n else pGexp .testlistGexp n
      let c <- expectOp ")"
      return .node .atom [o, inner, c]
    if t.isOp "[" then
      let o <- take
      if <- nextIs (·.isOp "]") then return .node .atom [o, <- take]
      let inner <- pGexp .listmaker n
      let c <- expectOp "]"
      return .node .atom [o, inner, c]
    if t.isOp "\x7b" then
      let o <- take
      if <- nextIs (·.isOp "\x7d") then return .node .atom [o, <- take]
      let inner <- pDictsetmaker n
      let c <- expectOp "\x7d"
      return .node .atom [o, inner, c]
    if t.isOp "`" then
      let o <- take
      let inner <- commaList .testlist (·.startsTest) (pTest n)
      let c <- expectOp "`"
      return .node .atom [o, inner, c]
    if t.isOp "." then
      let a <- take
      let b <- expectOp "."
      let c <- expectOp "."
      return .node .atom [a, b, c]
    if t.isPlainName || t.kind == .number then return <- take
    if t.kind == .string then
      let mut parts := #[<- take]
      let ts <- read
      for _ in [0:ts.size] do
        if !(<- nextIs (·.kind == .string)) then break
        parts := parts.push (<- take)
      return mk .atom parts.toList
    failHere

def pNamedexprTest : Nat -> Parse Syn
  | 0 => outOfFuel
  | n + 1 => do
    let a <- pTest n
    if <- nextIs (·.isOp ":=") then
      let w <- take
      let b <- pTest n
      return .node .namedexprTest [a, w, b]
    pure a

/-- A named test, or a starred expression. -/
def pNamedOrStar : Nat -> Parse Syn
  | 0 => outOfFuel
  | n + 1 => do
    if <- nextIs (·.isOp "*") then pStarExpr n else pNamedexprTest n

/-- `listmaker` and `testlist_gexp`: the inside of square or round brackets. -/
def pGexp (sym : Sym) : Nat -> Parse Syn
  | 0 => outOfFuel
  | n + 1 => do
    let first <- pNamedOrStar n
    if <- startsComprehension then
      let c <- pOldCompFor n
      return .node sym [first, c]
    let mut parts := #[first]
    let ts <- read
    for _ in [0:ts.size] do
      if !(<- nextIs (·.isOp ",")) then break
      parts := parts.push (<- take)
      if !(<- nextIs GToken.startsTestOrStar) then break
      parts := parts.push (<- pNamedOrStar n)
    pure (mk sym parts.toList)

/-- `old_comp_for: [ASYNC] 'for' exprlist 'in' testlist_safe [old_comp_iter]` -/
def pOldCompFor : Nat -> Parse Syn
  | 0 => outOfFuel
  | n + 1 => do
    let mut parts : Array Syn := #[]
    if <- nextIs (·.isKw "async") then parts := parts.push (<- take)
    parts := parts.push (<- expectKw "for")
    parts := parts.push (<- pExprlist n)
    parts := parts.push (<- expectKw "in")
    parts := parts.push (<- pTestlistSafe n)
    if <- startsComprehension then parts := parts.push (<- pOldCompFor n)
    else if <- nextIs (·.isKw "if") then parts := parts.push (<- pOldCompIf n)
    pure (.node .oldCompFor parts.toList)

/-- `old_comp_if: 'if' old_test [old_comp_iter]` -/
def pOldCompIf : Nat -> Parse Syn
  | 0 => outOfFuel
  | n + 1 => do
    let i <- take
    let t <- pOldTest n
    let mut parts := #[i, t]
    if <- startsComprehension then parts := parts.push (<- pOldCompFor n)
    else if <- nextIs (·.isKw "if") then parts := parts.push (<- pOldCompIf n)
    pure (.node .oldCompIf parts.toList)

/-- `testlist_safe: old_test [(',' old_test)+ [',']]` -/
def pTestlistSafe : Nat -> Parse Syn
  | 0 => outOfFuel
  | n + 1 => do
    let first <- pOldTest n
    if !(<- nextIs (·.isOp ",")) then return first
    let mut parts := #[first, <- take, <- pOldTest n]
    let ts <- read
    for _ in [0:ts.size] do
      if !(<- nextIs (·.isOp ",")) then break
      parts := parts.push (<- take)
      if !(<- nextIs GToken.startsTest) then break
      parts := parts.push (<- pOldTest n)
    pure (.node .testlistSafe parts.toList)

/-- `comp_for: [ASYNC] 'for' exprlist 'in' or_test [comp_iter]` -/
def pCompFor : Nat -> Parse Syn
  | 0 => outOfFuel
  | n + 1 => do
    let mut parts : Array Syn := #[]
    if <- nextIs (·.isKw "async") then parts := parts.push (<- take)
    parts := parts.push (<- expectKw "for")
    parts := parts.push (<- pExprlist n)
    parts := parts.push (<- expectKw "in")
    parts := parts.push (<- pOrTest n)
    if <- startsComprehension then parts := parts.push (<- pCompFor n)
    else if <- nextIs (·.isKw "if") then parts := parts.push (<- pCompIf n)
    pure (.node .compFor parts.toList)

def pCompIf : Nat -> Parse Syn
  | 0 => outOfFuel
  | n + 1 => do
    let i <- take
    let t <- pOldTest n
    let mut parts := #[i, t]
    if <- startsComprehension then parts := parts.push (<- pCompFor n)
    else if <- nextIs (·.isKw "if") then parts := parts.push (<- pCompIf n)
    pure (.node .compIf parts.toList)

/-- One item of a dictionary or set display, in the mode fixed by the first item: a key and
    its value or a double star in a dictionary, a test or a starred expression in a set. -/
def pDictItem (dict : Bool) : Nat -> Parse (List Syn)
  | 0 => outOfFuel
  | n + 1 => do
    if dict then
      if <- nextIs (·.isOp "**") then
        let s <- take
        return [s, <- pExpr n]
      let k <- pTest n
      let c <- expectOp ":"
      return [k, c, <- pAsexprTest n]
    if <- nextIs (·.isOp "*") then return [<- pStarExpr n]
    let t <- pTest n
    if <- nextIs (·.isOp ":=") then
      let w <- take
      return [t, w, <- pTest n]
    pure [t]

def pDictsetmaker : Nat -> Parse Syn
  | 0 => outOfFuel
  | n + 1 => do
    let (dict, first) <- do
      if <- nextIs (·.isOp "**") then
        let s <- take
        pure (true, [s, <- pExpr n])
      else if <- nextIs (·.isOp "*") then pure (false, [<- pStarExpr n])
      else
        let t <- pTest n
        if <- nextIs (·.isOp ":") then
          let c <- take
          pure (true, [t, c, <- pAsexprTest n])
        else if <- nextIs (·.isOp ":=") then
          let w <- take
          pure (false, [t, w, <- pTest n])
        else pure (false, [t])
    if <- startsComprehension then
      let c <- pCompFor n
      return .node .dictsetmaker (first ++ [c])
    let mut parts := first.toArray
    let ts <- read
    for _ in [0:ts.size] do
      if !(<- nextIs (·.isOp ",")) then break
      parts := parts.push (<- take)
      if !(<- nextIs (fun t => t.startsTestOrStar || t.isOp "**")) then break
      parts := parts ++ (<- pDictItem dict n).toArray
    pure (mk .dictsetmaker parts.toList)

/-- `trailer: '(' [arglist] ')' | '[' subscriptlist ']' | '.' NAME` -/
def pTrailer : Nat -> Parse Syn
  | 0 => outOfFuel
  | n + 1 => do
    let t <- peek
    if t.isOp "(" then
      let o <- take
      if <- nextIs (·.isOp ")") then return .node .trailer [o, <- take]
      let args <- pArglist n
      let c <- expectOp ")"
      return .node .trailer [o, args, c]
    if t.isOp "[" then
      let o <- take
      let subs <- commaList .subscriptlist (fun t => t.startsTest || t.isOp ":") (pSubscript n)
      let c <- expectOp "]"
      return .node .trailer [o, subs, c]
    let d <- take
    pure (.node .trailer [d, <- expectName])

/-- `arglist: argument (',' argument)* [',']` -/
def pArglist : Nat -> Parse Syn
  | 0 => outOfFuel
  | n + 1 =>
    commaList .arglist (fun t => t.startsTest || t.isOp "*" || t.isOp "**") (pArgument n)

/-- `argument`: a value, a comprehension, a keyword and its value, or a starred value. -/
def pArgument : Nat -> Parse Syn
  | 0 => outOfFuel
  | n + 1 => do
    if <- nextIs (fun t => t.isOp "*" || t.isOp "**") then
      let s <- take
      return .node .argument [s, <- pTest n]
    let t <- pTest n
    if <- startsComprehension then return .node .argument [t, <- pCompFor n]
    if <- nextIs (fun t => t.isOp ":=" || t.isKw "as") then
      let o <- take
      return .node .argument [t, o, <- pTest n]
    if <- nextIs (·.isOp "=") then
      let o <- take
      return .node .argument [t, o, <- pAsexprTest n]
    pure t

/-- `subscript: test [':=' test] | [test] ':' [test] [sliceop]` -/
def pSubscript : Nat -> Parse Syn
  | 0 => outOfFuel
  | n + 1 => do
    let mut parts : Array Syn := #[]
    if !(<- nextIs (·.isOp ":")) then
      let t <- pTest n
      if <- nextIs (·.isOp ":=") then
        let w <- take
        return .node .subscript [t, w, <- pTest n]
      if !(<- nextIs (·.isOp ":")) then return t
      parts := parts.push t
    parts := parts.push (<- take)
    if <- nextIs GToken.startsTest then parts := parts.push (<- pTest n)
    if <- nextIs (·.isOp ":") then
      let c <- take
      if <- nextIs GToken.startsTest then parts := parts.push (.node .sliceop [c, <- pTest n])
      else parts := parts.push c
    pure (mk .subscript parts.toList)

/-- `exprlist: (expr|star_expr) (',' (expr|star_expr))* [',']` -/
def pExprlist : Nat -> Parse Syn
  | 0 => outOfFuel
  | n + 1 => commaList .exprlist (fun t => t.startsExpr || t.isOp "*") (pExprOrStar n)

/-- `testlist_star_expr: (test|star_expr) (',' (test|star_expr))* [',']` -/
def pTestlistStarExpr : Nat -> Parse Syn
  | 0 => outOfFuel
  | n + 1 => commaList .testlistStarExpr GToken.startsTestOrStar (pTestOrStar n)

def pTestlist : Nat -> Parse Syn
  | 0 => outOfFuel
  | n + 1 => commaList .testlist GToken.startsTest (pTest n)

/-- `asexpr_test: (test|star_expr) ['as' (test|star_expr)]` -/
def pAsexprTest : Nat -> Parse Syn
  | 0 => outOfFuel
  | n + 1 => do
    let a <- pTestOrStar n
    if <- nextIs (·.isKw "as") then
      let k <- take
      return .node .asexprTest [a, k, <- pTestOrStar n]
    pure a

def pYieldExpr : Nat -> Parse Syn
  | 0 => outOfFuel
  | n + 1 => do
    let y <- take
    if <- nextIs (·.isKw "from") then
      let f <- take
      let t <- pTest n
      return .node .yieldExpr [y, .node .yieldArg [f, t]]
    if <- nextIs GToken.startsTestOrStar then
      return .node .yieldExpr [y, <- pTestlistStarExpr n]
    pure y

/-- `expr_stmt`: an expression, an assignment, an annotated or an augmented one. -/
def pExprStmt : Nat -> Parse Syn
  | 0 => outOfFuel
  | n + 1 => do
    let lhs <- pTestlistStarExpr n
    let t <- peek
    if t.isOp ":" then
      let c <- take
      let ann <- pTest n
      if <- nextIs (·.isOp "=") then
        let e <- take
        let v <- if <- nextIs (·.isKw "yield") then pYieldExpr n else pTestlistStarExpr n
        return .node .exprStmt [lhs, .node .annassign [c, ann, e, v]]
      return .node .exprStmt [lhs, .node .annassign [c, ann]]
    if augmentedOperators.any t.isOp then
      let o <- take
      let v <- if <- nextIs (·.isKw "yield") then pYieldExpr n else pTestlist n
      return .node .exprStmt [lhs, o, v]
    let mut parts := #[lhs]
    let ts <- read
    for _ in [0:ts.size] do
      if !(<- nextIs (·.isOp "=")) then break
      parts := parts.push (<- take)
      parts := parts.push (<- if <- nextIs (·.isKw "yield") then pYieldExpr n
        else pTestlistStarExpr n)
    pure (mk .exprStmt parts.toList)

def pDottedName : Nat -> Parse Syn
  | 0 => outOfFuel
  | _ + 1 => chain .dottedName (·.isOp ".") expectName

/-- `dotted_as_name: dotted_name ['as' NAME]` -/
def pDottedAsName : Nat -> Parse Syn
  | 0 => outOfFuel
  | n + 1 => do
    let d <- pDottedName n
    if <- nextIs (·.isKw "as") then
      let k <- take
      return .node .dottedAsName [d, k, <- expectName]
    pure d

def pImportAsName : Nat -> Parse Syn
  | 0 => outOfFuel
  | _ + 1 => do
    let d <- expectName
    if <- nextIs (·.isKw "as") then
      let k <- take
      return .node .importAsName [d, k, <- expectName]
    pure d

/-- `import_from`: `from` a module, perhaps relative, `import` names or all. -/
def pImportFrom : Nat -> Parse Syn
  | 0 => outOfFuel
  | n + 1 => do
    let mut parts := #[<- take]
    let ts <- read
    let mut dots := 0
    for _ in [0:ts.size] do
      if !(<- nextIs (·.isOp ".")) then break
      parts := parts.push (<- take)
      dots := dots + 1
    if dots == 0 || (<- nextIs GToken.isPlainName) then
      parts := parts.push (<- pDottedName n)
    parts := parts.push (<- expectKw "import")
    if <- nextIs (·.isOp "*") then
      parts := parts.push (<- take)
    else if <- nextIs (·.isOp "(") then
      parts := parts.push (<- take)
      parts := parts.push (<- commaList .importAsNames GToken.isPlainName (pImportAsName n))
      parts := parts.push (<- expectOp ")")
    else
      parts := parts.push (<- commaList .importAsNames GToken.isPlainName (pImportAsName n))
    pure (.node .importFrom parts.toList)

/-- `small_stmt`: a statement that is not a block. -/
def pSmallStmt : Nat -> Parse Syn
  | 0 => outOfFuel
  | n + 1 => do
    let t <- peek
    if t.isKw "pass" || t.isKw "break" || t.isKw "continue" then take
    else if t.isKw "del" then
      let k <- take
      pure (.node .delStmt [k, <- pExprlist n])
    else if t.isKw "return" then
      let k <- take
      if <- nextIs GToken.startsTestOrStar then
        pure (.node .returnStmt [k, <- pTestlistStarExpr n])
      else pure k
    else if t.isKw "raise" then
      let k <- take
      if !(<- nextIs GToken.startsTest) then return k
      let e <- pTest n
      if <- nextIs (·.isKw "from") then
        let f <- take
        return .node .raiseStmt [k, e, f, <- pTest n]
      pure (.node .raiseStmt [k, e])
    else if t.isKw "yield" then pYieldExpr n
    else if t.isKw "import" then
      let k <- take
      let names <- do
        let first <- pDottedAsName n
        let mut parts := #[first]
        let ts <- read
        for _ in [0:ts.size] do
          if !(<- nextIs (·.isOp ",")) then break
          parts := parts.push (<- take)
          parts := parts.push (<- pDottedAsName n)
        pure (mk .dottedAsNames parts.toList)
      pure (.node .importName [k, names])
    else if t.isKw "from" then pImportFrom n
    else if t.isKw "global" || t.isKw "nonlocal" then
      let k <- take
      let mut parts := #[k, <- expectName]
      let ts <- read
      for _ in [0:ts.size] do
        if !(<- nextIs (·.isOp ",")) then break
        parts := parts.push (<- take)
        parts := parts.push (<- expectName)
      pure (.node .globalStmt parts.toList)
    else if t.isKw "assert" then
      let k <- take
      let e <- pTest n
      if <- nextIs (·.isOp ",") then
        let c <- take
        return .node .assertStmt [k, e, c, <- pTest n]
      pure (.node .assertStmt [k, e])
    else pExprStmt n

/-- `simple_stmt: small_stmt (';' small_stmt)* [';'] NEWLINE` -/
def pSimpleStmt : Nat -> Parse Syn
  | 0 => outOfFuel
  | n + 1 => do
    let first <- pSmallStmt n
    let mut parts := #[first]
    let ts <- read
    for _ in [0:ts.size] do
      if !(<- nextIs (·.isOp ";")) then break
      parts := parts.push (<- take)
      if <- nextIs (·.kind == .newline) then break
      parts := parts.push (<- pSmallStmt n)
    parts := parts.push (<- expect (·.kind == .newline))
    pure (.node .simpleStmt parts.toList)

/-- `suite: simple_stmt | NEWLINE INDENT stmt+ DEDENT` -/
def pSuite : Nat -> Parse Syn
  | 0 => outOfFuel
  | n + 1 => do
    if !(<- nextIs (·.kind == .newline)) then return <- pSimpleStmt n
    let nl <- take
    let ind <- expect (·.kind == .indent)
    let mut parts := #[nl, ind, <- pStmt n]
    let ts <- read
    for _ in [0:ts.size] do
      if <- nextIs (·.kind == .dedent) then break
      parts := parts.push (<- pStmt n)
    parts := parts.push (<- expect (·.kind == .dedent))
    pure (.node .suite parts.toList)

def pParameters : Nat -> Parse Syn
  | 0 => outOfFuel
  | n + 1 => do
    let o <- expectOp "("
    if <- nextIs (·.isOp ")") then return .node .parameters [o, <- take]
    let mut parts : Array Syn := #[]
    let ts <- read
    for _ in [0:ts.size] do
      let t <- peek
      if t.isOp "*" then
        parts := parts.push (<- take)
        if <- nextIs GToken.isPlainName then
          let nm <- take
          if <- nextIs (·.isOp ":") then
            let c <- take
            parts := parts.push (.node .tnameStar [nm, c, <- pTestOrStar n])
          else parts := parts.push nm
      else if t.isOp "**" then
        parts := parts.push (<- take)
        parts := parts.push (<- pTname n)
      else if t.isOp "/" then
        parts := parts.push (<- take)
      else
        parts := parts.push (<- pTname n)
        if <- nextIs (·.isOp "=") then
          parts := parts.push (<- take)
          parts := parts.push (<- pTest n)
      if !(<- nextIs (·.isOp ",")) then break
      parts := parts.push (<- take)
      if <- nextIs (·.isOp ")") then break
    let c <- expectOp ")"
    pure (.node .parameters [o, mk .typedargslist parts.toList, c])

def pTname : Nat -> Parse Syn
  | 0 => outOfFuel
  | n + 1 => do
    let nm <- expectName
    if <- nextIs (·.isOp ":") then
      let c <- take
      return .node .tname [nm, c, <- pTest n]
    pure nm

/-- `funcdef: 'def' NAME parameters ['->' test] ':' suite` -/
def pFuncdef : Nat -> Parse Syn
  | 0 => outOfFuel
  | n + 1 => do
    let d <- expectKw "def"
    let nm <- expectName
    let ps <- pParameters n
    let mut parts := #[d, nm, ps]
    if <- nextIs (·.isOp "->") then
      parts := parts.push (<- take)
      parts := parts.push (<- pTest n)
    parts := parts.push (<- expectOp ":")
    parts := parts.push (<- pSuite n)
    pure (.node .funcdef parts.toList)

/-- `classdef: 'class' NAME ['(' [arglist] ')'] ':' suite` -/
def pClassdef : Nat -> Parse Syn
  | 0 => outOfFuel
  | n + 1 => do
    let k <- take
    let nm <- expectName
    let mut parts := #[k, nm]
    if <- nextIs (·.isOp "(") then
      parts := parts.push (<- take)
      if !(<- nextIs (·.isOp ")")) then parts := parts.push (<- pArglist n)
      parts := parts.push (<- expectOp ")")
    parts := parts.push (<- expectOp ":")
    parts := parts.push (<- pSuite n)
    pure (.node .classdef parts.toList)

/-- A keyword, a condition, a colon and a block: one clause of an `if` or a `while`. -/
def pClause (cond : Bool) : Nat -> Parse (List Syn)
  | 0 => outOfFuel
  | n + 1 => do
    let k <- take
    let c <- if cond then pure [<- pNamedexprTest n] else pure []
    let colon <- expectOp ":"
    pure ([k] ++ c ++ [colon, <- pSuite n])

/-- `if_stmt`, `while_stmt`, `for_stmt`, `try_stmt` and `with_stmt`. -/
def pCompound : Nat -> Parse Syn
  | 0 => outOfFuel
  | n + 1 => do
    let t <- peek
    let ts <- read
    if t.isKw "if" || t.isKw "while" then
      let mut parts := (<- pClause true n).toArray
      for _ in [0:ts.size] do
        if !(<- nextIs (·.isKw "elif")) || t.isKw "while" then break
        parts := parts ++ (<- pClause true n).toArray
      if <- nextIs (·.isKw "else") then parts := parts ++ (<- pClause false n).toArray
      return .node (if t.isKw "if" then .ifStmt else .whileStmt) parts.toList
    if t.isKw "for" then
      let k <- take
      let targets <- pExprlist n
      let i <- expectKw "in"
      let source <- pTestlistStarExpr n
      let colon <- expectOp ":"
      let mut parts := #[k, targets, i, source, colon, <- pSuite n]
      if <- nextIs (·.isKw "else") then parts := parts ++ (<- pClause false n).toArray
      return .node .forStmt parts.toList
    if t.isKw "try" then
      let mut parts := (<- pClause false n).toArray
      if <- nextIs (·.isKw "finally") then
        return .node .tryStmt (parts ++ (<- pClause false n).toArray).toList
      let first <- pExceptClause n
      let colon <- expectOp ":"
      parts := parts ++ #[first, colon, <- pSuite n]
      for _ in [0:ts.size] do
        if !(<- nextIs (·.isKw "except")) then break
        let e <- pExceptClause n
        let colon <- expectOp ":"
        parts := parts ++ #[e, colon, <- pSuite n]
      if <- nextIs (·.isKw "else") then parts := parts ++ (<- pClause false n).toArray
      if <- nextIs (·.isKw "finally") then parts := parts ++ (<- pClause false n).toArray
      return .node .tryStmt parts.toList
    let k <- take
    let first <- pAsexprTest n
    let mut parts := #[k, first]
    for _ in [0:ts.size] do
      if !(<- nextIs (·.isOp ",")) then break
      parts := parts.push (<- take)
      parts := parts.push (<- pAsexprTest n)
    parts := parts.push (<- expectOp ":")
    parts := parts.push (<- pSuite n)
    pure (.node .withStmt parts.toList)

/-- `except_clause: 'except' ['*'] [test [(',' | 'as') test]]` -/
def pExceptClause : Nat -> Parse Syn
  | 0 => outOfFuel
  | n + 1 => do
    let k <- expectKw "except"
    let mut parts := #[k]
    if <- nextIs (·.isOp "*") then parts := parts.push (<- take)
    if <- nextIs GToken.startsTest then
      parts := parts.push (<- pTest n)
      if <- nextIs (fun t => t.isOp "," || t.isKw "as") then
        parts := parts.push (<- take)
        parts := parts.push (<- pTest n)
    pure (mk .exceptClause parts.toList)

def pAsync (decorated : Bool) : Nat -> Parse Syn
  | 0 => outOfFuel
  | n + 1 => do
    let a <- take
    if <- nextIs (·.isKw "def") then
      return .node (if decorated then .asyncFuncdef else .asyncStmt) [a, <- pFuncdef n]
    if decorated then failHere
    if <- nextIs (fun t => t.isKw "with" || t.isKw "for") then
      return .node .asyncStmt [a, <- pCompound n]
    failHere

/-- `decorated: decorators (classdef | funcdef | async_funcdef)` -/
def pDecorated : Nat -> Parse Syn
  | 0 => outOfFuel
  | n + 1 => do
    let mut decorators : Array Syn := #[]
    let ts <- read
    for _ in [0:ts.size] do
      if !(<- nextIs (·.isOp "@")) then break
      let sign <- take
      let e <- pNamedexprTest n
      let nl <- expect (·.kind == .newline)
      decorators := decorators.push (.node .decorator [sign, e, nl])
    let t <- peek
    let target <- if t.isKw "class" then pClassdef n
      else if t.isKw "def" then pFuncdef n
      else if t.isKw "async" then pAsync true n
      else failHere
    pure (.node .decorated [mk .decorators decorators.toList, target])

def pStmt : Nat -> Parse Syn
  | 0 => outOfFuel
  | n + 1 => do
    let t <- peek
    if ["if", "while", "for", "try", "with"].any t.isKw then pCompound n
    else if t.isKw "def" then pFuncdef n
    else if t.isKw "class" then pClassdef n
    else if t.isOp "@" then pDecorated n
    else if t.isKw "async" then pAsync false n
    else pSimpleStmt n

end

/-- `file_input: (NEWLINE | stmt)* ENDMARKER` -/
def pFileInput (fuel : Nat) : Parse Syn := do
  let mut parts : Array Syn := #[]
  let ts <- read
  for _ in [0:ts.size] do
    let t <- peek
    if t.kind == .endmarker then break
    if t.kind == .newline then parts := parts.push (<- take)
    else parts := parts.push (<- pStmt fuel)
  parts := parts.push (<- expect (·.kind == .endmarker))
  pure (mk .fileInput parts.toList)

/-- Reads the tokens of a source, each with its prefix, into a tree. -/
def parseTokens (tokens : Array GToken) : Except ParseFail Syn :=
  ((pFileInput (20 * tokens.size + 100)).run tokens).run' 0

end Blueprints.Layout
