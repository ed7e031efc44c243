import Blueprints.Script.Lexer
import Blueprints.Syntax

namespace Blueprints.Script

/-- A statement of a file or of a class body. -/
inductive Item where
  | expr (e : Expr)
  | assign (targets : List Expr) (value : Expr)
  | augAssign (target : Expr) (op : BinOp) (value : Expr)
  | importModules (names : List (String × Option String))
  | importFrom (module : String) (names : List (String × Option String))
  | classDef (name : String) (decorators : List Expr) (bases : List Expr)
      (keywords : List (String × Expr)) (doc : Option String) (body : List Item)
  | funcDef (decorators : List Expr) (defn : FuncDef)
  | ifThen (test : Expr) (body orelse : List Item)
  | withBlock (ctx : Expr) (asName : Option String) (body : List Item)
  | pass
  | other (kind : String) (exprs : List Expr) (blocks : List (List Item))
deriving Repr, Inhabited

/-- A parsed file: its documentation text and its statements. -/
structure Module where
  doc : Option String
  items : List Item
deriving Repr, Inhabited

mutual
/-- A statement of a file as a statement of a function body. -/
def Item.toStmt : Item -> Stmt
  | .expr e => .expr e
  | .assign targets value => .assign targets value
  | .augAssign target _ value => .other "AugAssign" [target, value] []
  | .importModules _ => .other "Import" [] []
  | .importFrom _ _ => .other "ImportFrom" [] []
  | .classDef _ decorators bases kws _ body =>
    .other "ClassDef" (bases ++ kws.map (·.2) ++ decorators) [Item.toStmts body]
  | .funcDef decorators defn =>
    .other "FunctionDef" (defn.params.filterMap (·.default) ++ decorators) [defn.body]
  | .ifThen test body orelse => .ifThen test (Item.toStmts body) (Item.toStmts orelse)
  | .withBlock ctx asName body => .withBlock ctx asName (Item.toStmts body)
  | .pass => .pass
  | .other kind exprs blocks => .other kind exprs (Item.toBlocks blocks)

/-- Statements of a file as statements of a function body. -/
def Item.toStmts : List Item -> List Stmt
  | [] => []
  | i :: is => i.toStmt :: Item.toStmts is

/-- Blocks of a file as blocks of a function body. -/
def Item.toBlocks : List (List Item) -> List (List Stmt)
  | [] => []
  | b :: bs => Item.toStmts b :: Item.toBlocks bs
end

/-- The documentation text of a body, when it starts with a text, and the rest of the body. -/
def splitDoc : List Item -> Option String × List Item
  | .expr (.lit (.str s)) :: rest => (some s, rest)
  | items => (none, items)

/-- The reader of tokens: the tokens of the file, and the position of the next one. -/
abbrev Parse := ReaderT (Array Lexeme) (StateT Nat (Except SyntaxError))

/-- The next token, with its line; past the end, the last token. -/
def peek : Parse Lexeme := do
  let ts <- read
  let i <- get
  pure (ts[i]?.getD (ts.back?.getD ⟨.eof, 1⟩))

def peekSecond : Parse Token := do
  let ts <- read
  let i <- get
  pure ((ts[i + 1]?.map (·.token)).getD .eof)

def advance : Parse Lexeme := do
  let l <- peek
  modify (· + 1)
  pure l

def lastLine : Parse Nat := do
  let ts <- read
  let i <- get
  pure (((ts[i - 1]?).map (·.line)).getD 1)

/-- Stops at the next token with a message. -/
def failHere {α : Type} (message : String) : Parse α := do
  throw { message, line := (<- peek).line }

/-- Stops at the token taken last with a message. -/
def failAfter {α : Type} (message : String) : Parse α := do
  throw { message, line := <- lastLine }

/-- Whether the next token is the operator or keyword `s`. -/
def isNext (s : String) : Parse Bool := do
  match (<- peek).token with
  | .op o => pure (o == s)
  | .name n => pure (n == s && Text.keywords.contains s)
  | _ => pure false

/-- Takes the operator or keyword `s` if it is next. -/
def accept (s : String) : Parse Bool := do
  if <- isNext s then
    let _ <- advance
    pure true
  else pure false

/-- Takes the operator or keyword `s`, which must be next. -/
def expect (s : String) : Parse Unit := do
  unless <- accept s do failHere "invalid syntax"

/-- Takes the colon that ends the header of a block. -/
def expectColon : Parse Unit := do
  unless <- accept ":" do failAfter "expected ':'"

def expectName : Parse String := do
  match (<- peek).token with
  | .name n =>
    if Text.keywords.contains n then failHere "invalid syntax"
    else
      let _ <- advance
      pure n
  | _ => failHere "invalid syntax"

/-- Whether the next token ends a simple statement. -/
def atStatementEnd : Parse Bool := do
  match (<- peek).token with
  | .newline | .eof => pure true
  | .op ";" => pure true
  | _ => pure false

/-- A dotted name such as `calm.dsl.builtins`. -/
def dottedName (fuel : Nat) : Parse String := do
  let first <- expectName
  let mut parts := #[first]
  for _ in List.range fuel do
    if <- isNext "." then
      let _ <- advance
      parts := parts.push (<- expectName)
    else break
  pure (".".intercalate parts.toList)

/-- The operator of an augmented assignment. -/
def augOperator? (o : String) : Option BinOp :=
  match o with
  | "+=" => some .add
  | "-=" => some .sub
  | "*=" => some .mul
  | "/=" => some .div
  | "//=" => some .floorDiv
  | "%=" => some .mod
  | _ => none

/-- The comparison operator that the next tokens start with, taken. -/
def comparisonOp? : Parse (Option CmpOp) := do
  match (<- peek).token with
  | .op "==" => let _ <- advance; pure (some .eq)
  | .op "!=" => let _ <- advance; pure (some .ne)
  | .op "<" => let _ <- advance; pure (some .lt)
  | .op "<=" => let _ <- advance; pure (some .le)
  | .op ">" => let _ <- advance; pure (some .gt)
  | .op ">=" => let _ <- advance; pure (some .ge)
  | .name "in" => let _ <- advance; pure (some .mem)
  | .name "is" =>
    let _ <- advance
    if <- accept "not" then pure (some .isNot) else pure (some .isSame)
  | .name "not" =>
    if (<- peekSecond) == .name "in" then
      let _ <- advance
      let _ <- advance
      pure (some .notMem)
    else pure none
  | _ => pure none

/-- The binary operators of a level of binding, loosest level first. -/
def levelOps : Nat -> List String
  | 0 => ["|"]
  | 1 => ["^"]
  | 2 => ["&"]
  | 3 => ["<<", ">>"]
  | 4 => ["+", "-"]
  | _ => ["*", "/", "//", "%", "@"]

/-- The arithmetic that an operator stands for, when the library evaluates it. -/
def binOp? (o : String) : Option BinOp :=
  match o with
  | "+" => some .add
  | "-" => some .sub
  | "*" => some .mul
  | "/" => some .div
  | "//" => some .floorDiv
  | "%" => some .mod
  | _ => none

/-- Joins the pieces of adjacent text literals: plain texts stay one literal. -/
def joinPieces (pieces : List (Sum String (Expr × String))) : Expr :=
  if pieces.all (·.isLeft) then
    .lit (.str (String.join (pieces.filterMap fun p => match p with
      | .inl s => some s
      | .inr _ => none)))
  else
    let merged := pieces.foldl (fun acc p => match acc.reverse, p with
      | .inl a :: rest, .inl b => (.inl (a ++ b) :: rest).reverse
      | _, p => acc ++ [p]) []
    .format merged

/-- Splits the body of a formatted text into literal pieces and the texts of its fields, each
    with its format spec. Doubled braces stand for braces. -/
def splitFields : Nat -> List Char -> Except String (List (Sum String (String × String)))
  | 0, _ => .error "f-string: expressions nested too deeply"
  | _ + 1, [] => .ok []
  | n + 1, '{' :: '{' :: cs => do
    let rest <- splitFields n cs
    pure (.inl "\x7b" :: rest)
  | n + 1, '}' :: '}' :: cs => do
    let rest <- splitFields n cs
    pure (.inl "\x7d" :: rest)
  | _ + 1, '}' :: _ => .error "f-string: single '\x7d' is not allowed"
  | n + 1, '{' :: cs =>
    let field := cs.takeWhile (· != '}')
    match cs.dropWhile (· != '}') with
    | '}' :: after =>
      let exprPart := field.takeWhile (fun c => c != ':' && c != '!')
      let spec := match field.dropWhile (· != ':') with
        | ':' :: s => String.ofList s
        | _ => ""
      if (String.ofList exprPart).trimAscii.isEmpty then .error "f-string: empty expression not allowed"
      else do
        let rest <- splitFields n after
        pure (.inr (String.ofList exprPart, spec) :: rest)
    | _ => .error "f-string: expecting '\x7d'"
  | n + 1, c :: cs => do
    let rest <- splitFields n cs
    match rest with
    | .inl s :: more => pure (.inl (c.toString ++ s) :: more)
    | more => pure (.inl c.toString :: more)

mutual
/-- An expression list: one expression, or a tuple when commas separate several. -/
def testList : Nat -> Parse Expr
  | 0 => failHere "too many nested parentheses"
  | n + 1 => do
    let first <- test n
    if !(<- isNext ",") then return first
    let mut items := #[first]
    for _ in List.range (<- read).size do
      if !(<- accept ",") then break
      if <- startsExpression then items := items.push (<- test n) else break
    pure (.tuple items.toList)

/-- Whether the next token may start an expression. -/
def startsExpression : Parse Bool := do
  match (<- peek).token with
  | .name n => pure (!Text.keywords.contains n || ["True", "False", "None", "not", "lambda",
      "await"].contains n)
  | .int _ | .float _ | .str _ | .fstr _ _ => pure true
  | .op o => pure (["(", "[", "\x7b", "-", "+", "~", "*", "...", "**"].contains o)
  | _ => pure false

def test : Nat -> Parse Expr
  | 0 => failHere "too many nested parentheses"
  | n + 1 => do
    if <- accept "lambda" then
      for _ in List.range (<- read).size do
        if <- isNext ":" then break
        let _ <- advance
      expect ":"
      let body <- test n
      return .other "Lambda" [body]
    let value <- orTest n
    if <- accept "if" then
      let cond <- orTest n
      unless <- accept "else" do failHere "expected 'else' after 'if' expression"
      let other <- test n
      return .cond cond value other
    pure value

def orTest : Nat -> Parse Expr
  | 0 => failHere "too many nested parentheses"
  | n + 1 => do
    let mut e <- andTest n
    for _ in List.range (<- read).size do
      if <- accept "or" then e := .or e (<- andTest n) else break
    pure e

def andTest : Nat -> Parse Expr
  | 0 => failHere "too many nested parentheses"
  | n + 1 => do
    let mut e <- notTest n
    for _ in List.range (<- read).size do
      if <- accept "and" then e := .and e (<- notTest n) else break
    pure e

def notTest : Nat -> Parse Expr
  | 0 => failHere "too many nested parentheses"
  | n + 1 => do
    if <- accept "not" then return .not (<- notTest n)
    comparison n

/-- Comparisons; a chain `a < b < c` compares each neighbouring pair. -/
def comparison : Nat -> Parse Expr
  | 0 => failHere "too many nested parentheses"
  | n + 1 => do
    let first <- binary n 0
    let mut lhs := first
    let mut parts : Array Expr := #[]
    for _ in List.range (<- read).size do
      match <- comparisonOp? with
      | some op =>
        let rhs <- binary n 0
        parts := parts.push (.compare op lhs rhs)
        lhs := rhs
      | none => break
    match parts.toList with
    | [] => pure first
    | p :: ps => pure (ps.foldl Expr.and p)

/-- The binary operators from level `level` on, each level binding tighter than the one before. -/
def binary : Nat -> Nat -> Parse Expr
  | 0, _ => failHere "too many nested parentheses"
  | n + 1, level => do
    if level > 5 then return <- unary n
    let mut e <- binary n (level + 1)
    for _ in List.range (<- read).size do
      match (<- peek).token with
      | .op o =>
        if (levelOps level).contains o then
          let _ <- advance
          let rhs <- binary n (level + 1)
          e := match binOp? o with
            | some b => .binary b e rhs
            | none => .other "BinOp" [e, rhs]
        else break
      | _ => break
    pure e

def unary : Nat -> Parse Expr
  | 0 => failHere "too many nested parentheses"
  | n + 1 => do
    if <- accept "-" then return .neg (<- unary n)
    if <- accept "+" then return .other "UnaryOp" [<- unary n]
    if <- accept "~" then return .other "UnaryOp" [<- unary n]
    power n

/-- Powers, which bind tighter than a sign on their left. -/
def power : Nat -> Parse Expr
  | 0 => failHere "too many nested parentheses"
  | n + 1 => do
    let _ <- accept "await"
    let base <- primary n
    if <- accept "**" then return .other "BinOp" [base, <- unary n]
    pure base

/-- An atom followed by attributes, calls and items. -/
def primary : Nat -> Parse Expr
  | 0 => failHere "too many nested parentheses"
  | n + 1 => do
    let mut e <- atom n
    for _ in List.range (<- read).size do
      if <- accept "." then e := .attr e (<- expectName)
      else if <- accept "(" then
        let (args, kwargs) <- callArgs n
        e := .call e args kwargs
      else if <- accept "[" then
        let key <- subscript n
        expect "]"
        e := .index e key
      else break
    pure e

/-- The arguments of a call, after its opening parenthesis and through its closing one. -/
def callArgs : Nat -> Parse (List Expr × List (String × Expr))
  | 0 => failHere "too many nested parentheses"
  | n + 1 => do
    let mut args : Array Expr := #[]
    let mut kwargs : Array (String × Expr) := #[]
    for _ in List.range (<- read).size do
      if <- accept ")" then return (args.toList, kwargs.toList)
      let isKeyword <- match (<- peek).token, <- peekSecond with
        | .name k, .op "=" => pure (!Text.keywords.contains k)
        | _, _ => pure false
      if isKeyword then
        let k <- expectName
        let _ <- advance
        if kwargs.any (·.1 == k) then failAfter ("keyword argument repeated: " ++ k)
        kwargs := kwargs.push (k, <- test n)
      else if <- accept "**" then
        kwargs := kwargs.push ("**", <- test n)
      else if <- accept "*" then
        args := args.push (.other "Starred" [<- test n])
      else
        let start <- peek
        let a <- test n
        if <- isNext "for" then
          let e <- comprehension n "GeneratorExp" [a]
          args := args.push e
        else
          if !kwargs.isEmpty then
            throw { message := "positional argument follows keyword argument",
                    line := start.line }
          args := args.push a
      if !(<- accept ",") then
        expect ")"
        return (args.toList, kwargs.toList)
    failHere "invalid syntax"

/-- The key of an item: an expression, a slice, or a tuple of them. -/
def subscript : Nat -> Parse Expr
  | 0 => failHere "too many nested parentheses"
  | n + 1 => do
    let part : Parse Expr := do
      let lower <- if <- isNext ":" then pure none else some <$> test n
      if <- accept ":" then
        let upper <- if (<- isNext "]") || (<- isNext ",") || (<- isNext ":") then pure none
          else some <$> test n
        let step <- if <- accept ":" then
            if (<- isNext "]") || (<- isNext ",") then pure none else some <$> test n
          else pure none
        pure (.other "Slice" ([lower, upper, step].filterMap id))
      else match lower with
        | some e => pure e
        | none => failHere "invalid syntax"
    let first <- part
    if !(<- isNext ",") then return first
    let mut items := #[first]
    for _ in List.range (<- read).size do
      if !(<- accept ",") then break
      if <- isNext "]" then break
      items := items.push (<- part)
    pure (.tuple items.toList)

/-- The clauses of a comprehension, after its element; `parts` are the element's expressions. -/
def comprehension : Nat -> String -> List Expr -> Parse Expr
  | 0, _, _ => failHere "too many nested parentheses"
  | n + 1, kind, parts => do
    let mut exprs := parts
    for _ in List.range (<- read).size do
      if <- accept "for" then
        let target <- targetList n
        expect "in"
        let source <- orTest n
        exprs := exprs ++ [target, source]
      else if <- accept "if" then
        exprs := exprs ++ [<- orTest n]
      else break
    pure (.other kind exprs)

/-- The targets of a loop: expressions at the level of the bit operators, separated by
    commas. -/
def targetList : Nat -> Parse Expr
  | 0 => failHere "too many nested parentheses"
  | n + 1 => do
    let first <- binary n 0
    if !(<- isNext ",") then return first
    let mut items := #[first]
    for _ in List.range (<- read).size do
      if !(<- accept ",") then break
      if (<- isNext "in") || (<- isNext "=") then break
      items := items.push (<- binary n 0)
    pure (.tuple items.toList)

/-- An atom: a name, a literal, or a display in brackets. -/
def atom : Nat -> Parse Expr
  | 0 => failHere "too many nested parentheses"
  | n + 1 => do
    let l <- peek
    match l.token with
    | .name "True" => let _ <- advance; pure (.lit (.bool true))
    | .name "False" => let _ <- advance; pure (.lit (.bool false))
    | .name "None" => let _ <- advance; pure (.lit .none)
    | .name k =>
      if Text.keywords.contains k then failHere "invalid syntax"
      else
        let _ <- advance
        pure (.name k)
    | .int i => let _ <- advance; pure (.lit (.int i))
    | .float x => let _ <- advance; pure (.lit (.float x))
    | .str _ | .fstr _ _ => texts n
    | .op "..." => let _ <- advance; pure (.other "Constant" [])
    | .op "(" =>
      let _ <- advance
      if <- accept ")" then return .tuple []
      let first <- starredTest n
      if <- isNext "for" then
        let e <- comprehension n "GeneratorExp" [first]
        expect ")"
        return e
      if <- accept ")" then return first
      let mut items := #[first]
      for _ in List.range (<- read).size do
        if !(<- accept ",") then break
        if <- isNext ")" then break
        items := items.push (<- starredTest n)
      expect ")"
      pure (.tuple items.toList)
    | .op "[" =>
      let _ <- advance
      if <- accept "]" then return .list []
      let first <- starredTest n
      if <- isNext "for" then
        let e <- comprehension n "ListComp" [first]
        expect "]"
        return e
      let mut items := #[first]
      for _ in List.range (<- read).size do
        if !(<- accept ",") then break
        if <- isNext "]" then break
        items := items.push (<- starredTest n)
      expect "]"
      pure (.list items.toList)
    | .op "\x7b" =>
      let _ <- advance
      if <- accept "\x7d" then return .dict []
      if <- accept "**" then
        let first <- binary n 0
        let mut parts := #[first]
        for _ in List.range (<- read).size do
          if !(<- accept ",") then break
          if <- isNext "\x7d" then break
          parts := parts.push (<- dictEntry n)
        expect "\x7d"
        return .other "Dict" parts.toList
      let key <- starredTest n
      if <- accept ":" then
        let value <- test n
        if <- isNext "for" then
          let e <- comprehension n "DictComp" [key, value]
          expect "\x7d"
          return e
        let mut entries := #[(key, value)]
        let mut spread := false
        for _ in List.range (<- read).size do
          if !(<- accept ",") then break
          if <- isNext "\x7d" then break
          if <- accept "**" then
            let _ <- binary n 0
            spread := true
          else
            let k <- test n
            expect ":"
            entries := entries.push (k, <- test n)
        expect "\x7d"
        if spread then
          return .other "Dict" (entries.toList.flatMap fun (k, v) => [k, v])
        pure (.dict entries.toList)
      else
        if <- isNext "for" then
          let e <- comprehension n "SetComp" [key]
          expect "\x7d"
          return e
        let mut items := #[key]
        for _ in List.range (<- read).size do
          if !(<- accept ",") then break
          if <- isNext "\x7d" then break
          items := items.push (<- starredTest n)
        expect "\x7d"
        pure (.other "Set" items.toList)
    | _ => failHere "invalid syntax"

/-- An entry of a dictionary display after a spread: a spread or a key and value. -/
def dictEntry : Nat -> Parse Expr
  | 0 => failHere "too many nested parentheses"
  | n + 1 => do
    if <- accept "**" then return <- binary n 0
    let k <- test n
    expect ":"
    let v <- test n
    pure (.tuple [k, v])

/-- An expression that may be starred, as in displays. -/
def starredTest : Nat -> Parse Expr
  | 0 => failHere "too many nested parentheses"
  | n + 1 => do
    if <- accept "*" then return .other "Starred" [<- binary n 0]
    test n

/-- Adjacent text literals, joined into one. -/
def texts : Nat -> Parse Expr
  | 0 => failHere "too many nested parentheses"
  | n + 1 => do
    let mut pieces : Array (Sum String (Expr × String)) := #[]
    for _ in List.range (<- read).size do
      let l <- peek
      match l.token with
      | .str s =>
        let _ <- advance
        pieces := pieces.push (.inl s)
      | .fstr body isRaw =>
        let _ <- advance
        match splitFields (body.length + 1) body.toList with
        | .error msg => throw { message := msg, line := l.line }
        | .ok fields =>
          for f in fields do
            match f with
            | .inl s =>
              pieces := pieces.push (.inl (if isRaw then s else String.ofList (unescape s.toList)))
            | .inr (src, spec) =>
              pieces := pieces.push (.inr (<- fieldExpr n l.line src, spec))
      | _ => break
    pure (joinPieces pieces.toList)

/-- The expression of a field of a formatted text. -/
def fieldExpr : Nat -> Nat -> String -> Parse Expr
  | 0, _, _ => failHere "too many nested parentheses"
  | n + 1, line, src => do
    match tokenize ("(" ++ src ++ ")") with
    | .error e => throw { e with message := "f-string: " ++ e.message, line }
    | .ok ts =>
      match ((testList n).run ts).run 0 with
      | .ok (e, pos) =>
        match (ts[pos]?.map (·.token)).getD .eof with
        | .newline | .eof => pure e
        | _ => throw { message := "f-string: invalid syntax", line }
      | .error e => throw { e with message := "f-string: " ++ e.message, line }
end

/-- The right-hand side of an assignment: an expression list. -/
def assignedValue (n : Nat) : Parse Expr := do
  if <- accept "yield" then
    if <- atStatementEnd then return .other "Yield" []
    return .other "Yield" [<- testList n]
  testList n

/-- The names of an import list: `a as b, c` or the same in parentheses, or `*`. -/
def importNames (fuel : Nat) (dotted : Bool) : Parse (List (String × Option String)) := do
  if <- accept "*" then return [("*", none)]
  let paren <- accept "("
  let mut names : Array (String × Option String) := #[]
  for _ in List.range fuel do
    let name <- if dotted then dottedName fuel else expectName
    let asName <- if <- accept "as" then some <$> expectName else pure none
    names := names.push (name, asName)
    if !(<- accept ",") then break
    if paren && (<- isNext ")") then break
  if paren then expect ")"
  pure names.toList

/-- One simple statement: an expression, an assignment, an import, or a one-word statement. -/
def simpleStatement (n : Nat) : Parse Item := do
  let l <- peek
  let fuel := (<- read).size
  match l.token with
  | .name "pass" => let _ <- advance; pure .pass
  | .name "break" => let _ <- advance; pure (.other "Break" [] [])
  | .name "continue" => let _ <- advance; pure (.other "Continue" [] [])
  | .name "return" =>
    let _ <- advance
    if <- atStatementEnd then return .other "Return" [] []
    pure (.other "Return" [<- testList n] [])
  | .name "raise" =>
    let _ <- advance
    if <- atStatementEnd then return .other "Raise" [] []
    let e <- test n
    if <- accept "from" then return .other "Raise" [e, <- test n] []
    pure (.other "Raise" [e] [])
  | .name "global" | .name "nonlocal" =>
    let _ <- advance
    let _ <- expectName
    for _ in List.range fuel do
      if !(<- accept ",") then break
      let _ <- expectName
    pure (.other "Global" [] [])
  | .name "del" =>
    let _ <- advance
    pure (.other "Delete" [<- testList n] [])
  | .name "assert" =>
    let _ <- advance
    let e <- test n
    if <- accept "," then return .other "Assert" [e, <- test n] []
    pure (.other "Assert" [e] [])
  | .name "import" =>
    let _ <- advance
    pure (.importModules (<- importNames fuel true))
  | .name "from" =>
    let _ <- advance
    let mut dots := ""
    for _ in List.range fuel do
      if <- accept "." then dots := dots ++ "."
      else if <- accept "..." then dots := dots ++ "..."
      else break
    let module <- if (<- isNext "import") && !dots.isEmpty then pure "" else dottedName fuel
    expect "import"
    pure (.importFrom (dots ++ module) (<- importNames fuel false))
  | _ =>
    let first <- testList n
    match (<- peek).token with
    | .op "=" =>
      let mut targets := #[first]
      let mut value := first
      for _ in List.range fuel do
        if !(<- accept "=") then break
        value <- assignedValue n
        targets := targets.push value
      pure (.assign (targets.pop).toList value)
    | .op ":" =>
      let _ <- advance
      let _ <- test n
      if <- accept "=" then return .assign [first] (<- assignedValue n)
      pure (.other "AnnAssign" [first] [])
    | .op o =>
      match augOperator? o with
      | some op =>
        let _ <- advance
        pure (.augAssign first op (<- assignedValue n))
      | none =>
        if o.endsWith "=" && o.length ≥ 2 && !(["==", "!=", "<=", ">="].contains o) then
          let _ <- advance
          pure (.other "AugAssign" [first, <- assignedValue n] [])
        else pure (.expr first)
    | _ => pure (.expr first)

/-- What a block follows, as the message for a missing indented block says it. -/
def blockName (keyword : String) : String :=
  match keyword with
  | "class" => "class definition"
  | "def" => "function definition"
  | k => "'" ++ k ++ "' statement"

mutual
/-- The statements of a file up to its end, or of a block up to its closing dedent. -/
def statements : Nat -> Bool -> Parse (List Item)
  | 0, _ => failHere "too many statically nested blocks"
  | n + 1, inBlock => do
    let mut items : Array Item := #[]
    for _ in List.range ((<- read).size + 1) do
      match (<- peek).token with
      | .eof =>
        if inBlock then failHere "invalid syntax" else break
      | .dedent =>
        if inBlock then
          let _ <- advance
          break
        else failHere "invalid syntax"
      | .newline => let _ <- advance
      | .indent =>
        throw { message := "unexpected indent", line := (<- peek).line, kind := "IndentationError" }
      | _ => items := items ++ (<- statement n)
    pure items.toList

/-- The block after the colon of a header: an indented block, or simple statements on the
    same line. -/
def block : Nat -> String -> Nat -> Parse (List Item)
  | 0, _, _ => failHere "too many statically nested blocks"
  | n + 1, keyword, headerLine => do
    match (<- peek).token with
    | .newline =>
      let _ <- advance
      match (<- peek).token with
      | .indent =>
        let _ <- advance
        statements n true
      | _ =>
        throw { message := "expected an indented block after " ++ blockName keyword ++
          " on line " ++ toString headerLine, line := (<- peek).line, kind := "IndentationError" }
    | _ => simpleLine n

/-- Simple statements separated by semicolons, through the end of their line. -/
def simpleLine : Nat -> Parse (List Item)
  | 0 => failHere "too many statically nested blocks"
  | n + 1 => do
    let mut items := #[<- simpleStatement n]
    for _ in List.range (<- read).size do
      if !(<- accept ";") then break
      if <- atStatementEnd then break
      items := items.push (<- simpleStatement n)
    match (<- peek).token with
    | .newline => let _ <- advance; pure items.toList
    | .eof => pure items.toList
    | _ => failHere "invalid syntax"

/-- One statement, which may be a line of several simple statements. -/
def statement : Nat -> Parse (List Item)
  | 0 => failHere "too many statically nested blocks"
  | n + 1 => do
    let l <- peek
    match l.token with
    | .op "@" =>
      let mut decorators : Array Expr := #[]
      for _ in List.range (<- read).size do
        if !(<- accept "@") then break
        decorators := decorators.push (<- namedTest n)
        match (<- peek).token with
        | .newline => let _ <- advance
        | _ => failHere "invalid syntax"
      match (<- peek).token with
      | .name "def" => pure [<- functionDef n decorators.toList]
      | .name "class" => pure [<- classDef n decorators.toList]
      | .name "async" => pure [<- functionDef n decorators.toList]
      | _ => failHere "invalid syntax"
    | .name "class" => pure [<- classDef n []]
    | .name "def" => pure [<- functionDef n []]
    | .name "async" => pure [<- functionDef n []]
    | .name "if" =>
      let _ <- advance
      pure [<- ifChain n "if" l.line]
    | .name "with" =>
      let _ <- advance
      let mut contexts : Array (Expr × Option String) := #[]
      for _ in List.range (<- read).size do
        let ctx <- test n
        let asName <- if <- accept "as" then some <$> expectName else pure none
        contexts := contexts.push (ctx, asName)
        if !(<- accept ",") then break
      expectColon
      let body <- block n "with" l.line
      pure (contexts.toList.foldr (fun (c, a) inner => [Item.withBlock c a inner]) body)
    | .name "for" =>
      let _ <- advance
      let target <- targetList n
      expect "in"
      let source <- testList n
      expectColon
      let body <- block n "for" l.line
      let orelse <- elseBlock n
      pure [.other "For" [target, source] [body, orelse]]
    | .name "while" =>
      let _ <- advance
      let cond <- namedTest n
      expectColon
      let body <- block n "while" l.line
      let orelse <- elseBlock n
      pure [.other "While" [cond] [body, orelse]]
    | .name "try" =>
      let _ <- advance
      expectColon
      let body <- block n "try" l.line
      let mut blocks := #[body]
      let mut exprs : Array Expr := #[]
      for _ in List.range (<- read).size do
        let h <- peek
        if <- accept "except" then
          if !(<- isNext ":") then
            exprs := exprs.push (<- test n)
            if <- accept "as" then let _ <- expectName
          expectColon
          blocks := blocks.push (<- block n "except" h.line)
        else break
      if <- isNext "else" then blocks := blocks.push (<- elseBlock n)
      let f <- peek
      if <- accept "finally" then
        expectColon
        blocks := blocks.push (<- block n "finally" f.line)
      if blocks.size == 1 then failHere "expected 'except' or 'finally' block"
      pure [.other "Try" exprs.toList blocks.toList]
    | _ => simpleLine n

/-- An expression that may bind a name with `:=`. -/
def namedTest : Nat -> Parse Expr
  | 0 => failHere "too many nested parentheses"
  | n + 1 => do
    let e <- test n
    if <- accept ":=" then return .other "NamedExpr" [e, <- test n]
    pure e

/-- The `else` block of a loop, if there is one. -/
def elseBlock : Nat -> Parse (List Item)
  | 0 => failHere "too many statically nested blocks"
  | n + 1 => do
    let l <- peek
    if <- accept "else" then
      expectColon
      block n "else" l.line
    else pure []

/-- A conditional after its keyword, with its `elif` and `else` branches. -/
def ifChain : Nat -> String -> Nat -> Parse Item
  | 0, _, _ => failHere "too many statically nested blocks"
  | n + 1, keyword, line => do
    let cond <- namedTest n
    expectColon
    let body <- block n keyword line
    let l <- peek
    if <- accept "elif" then return .ifThen cond body [<- ifChain n "elif" l.line]
    if <- accept "else" then
      expectColon
      return .ifThen cond body (<- block n "else" l.line)
    pure (.ifThen cond body [])

def classDef : Nat -> List Expr -> Parse Item
  | 0, _ => failHere "too many statically nested blocks"
  | n + 1, decorators => do
    let l <- advance
    let name <- expectName
    let (bases, kws) <- if <- accept "(" then callArgs n else pure ([], [])
    expectColon
    let body <- block n "class" l.line
    let (doc, _) := splitDoc body
    pure (.classDef name decorators bases kws doc body)

/-- A function definition, from its keyword. -/
def functionDef : Nat -> List Expr -> Parse Item
  | 0, _ => failHere "too many statically nested blocks"
  | n + 1, decorators => do
    let _ <- accept "async"
    let l <- advance
    let name <- expectName
    expect "("
    let mut params : Array Param := #[]
    for _ in List.range (<- read).size do
      if <- isNext ")" then break
      if (<- accept "*") || (<- accept "**") then
        if !(<- isNext ",") && !(<- isNext ")") then
          let p <- expectName
          if <- accept ":" then let _ <- test n
          params := params.push { name := "*" ++ p, default := none }
      else if <- accept "/" then pure ()
      else
        let p <- expectName
        if <- accept ":" then let _ <- test n
        let default <- if <- accept "=" then some <$> test n else pure none
        if default.isNone && params.any (·.default.isSome) &&
            !params.any (·.name.startsWith "*") then
          failAfter "non-default argument follows default argument"
        params := params.push { name := p, default }
      if !(<- accept ",") then break
    expect ")"
    if <- accept "->" then let _ <- test n
    expectColon
    let body <- block n "def" l.line
    let (doc, rest) := splitDoc body
    let stmts := Item.toStmts rest
    let defn : FuncDef :=
      { name, params := params.toList, doc, body := if stmts.isEmpty then [.pass] else stmts }
    pure (.funcDef decorators defn)
end

/-- How deeply a file may nest its expressions and blocks. -/
def nestingBudget : Nat := 400

def parseModule (text : String) : Except SyntaxError Module := do
  let ts <- tokenize text
  let (items, _) <- ((statements nestingBudget false).run ts).run 0
  let (doc, _) := splitDoc items
  pure { doc, items }

end Blueprints.Script
