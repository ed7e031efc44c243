import Blueprints.Json.Basic
import Blueprints.Text.IdentifierChar

namespace Blueprints.Script
open Text

/-- A token of a blueprint file. -/
inductive Token where
  | name (id : String)
  | int (n : Int)
  | float (x : Decimal)
  | str (s : String)
  | fstr (body : String) (isRaw : Bool)
  | op (s : String)
  | newline
  | indent
  | dedent
  | eof
deriving Repr, Inhabited, BEq

/-- A token with the line it starts on. -/
structure Lexeme where
  token : Token
  line : Nat
deriving Repr, Inhabited

/-- Why a file cannot be read: a message and the line it concerns. -/
structure SyntaxError where
  message : String
  line : Nat
  kind : String := "SyntaxError"
deriving Repr, Inhabited

/-- The operators and delimiters of three, two and one characters, longest first, so that the
    first one that the text starts with is the longest. -/
def operators : List String :=
  ["**=", "//=", ">>=", "<<=", "...", "->", "**", "//", "==", "!=", "<=", ">=", "+=", "-=",
   "*=", "/=", "%=", "&=", "|=", "^=", "@=", ":=", "<<", ">>", "(", ")", "[", "]", "\x7b", "\x7d",
   ":", ",", ";", ".", "+", "-", "*", "/", "%", "<", ">", "=", "@", "&", "|", "^", "~"]

/-- The operator that the characters start with, if any. -/
def operatorAt? (cs : List Char) : Option String :=
  operators.find? fun o => o.toList.isPrefixOf cs

def isNameStart (c : Char) : Bool := c == '_' || isIdentStart c

/-- Whether a character may continue a name. -/
def isNameChar (c : Char) : Bool := c == '_' || isIdentContinue c

/-- The prefixes that may stand before the quote of a text literal. -/
def stringPrefixes : List String := ["r", "u", "b", "f", "br", "rb", "fr", "rf"]

/-- Line breaks of every convention written as one line feed. -/
def normalizeBreaks : List Char -> List Char
  | '\r' :: '\n' :: cs => '\n' :: normalizeBreaks cs
  | '\r' :: cs => '\n' :: normalizeBreaks cs
  | c :: cs => c :: normalizeBreaks cs
  | [] => []

/-- The value of a digit in a base up to sixteen. -/
def digitValue (c : Char) : Option Nat :=
  if c.isDigit then some (c.toNat - '0'.toNat)
  else if 'a' ≤ c && c ≤ 'f' then some (c.toNat - 'a'.toNat + 10)
  else if 'A' ≤ c && c ≤ 'F' then some (c.toNat - 'A'.toNat + 10)
  else none

/-- The digits of a base at the front of the characters, underscores between them skipped. -/
def spanDigits (base : Nat) : List Char -> List Nat × List Char
  | '_' :: c :: cs =>
    match digitValue c with
    | some d => if d < base then
        let (ds, rest) := spanDigits base cs
        (d :: ds, rest)
      else ([], '_' :: c :: cs)
    | none => ([], '_' :: c :: cs)
  | c :: cs =>
    match digitValue c with
    | some d => if d < base then
        let (ds, rest) := spanDigits base cs
        (d :: ds, rest)
      else ([], c :: cs)
    | none => ([], c :: cs)
  | [] => ([], [])

/-- The number that digits of a base stand for. -/
def digitsValue (base : Nat) (ds : List Nat) : Nat := ds.foldl (fun acc d => acc * base + d) 0

/-- Reads a number at the front of the characters. -/
def readNumber (cs : List Char) : Option (Token × List Char) :=
  let radix? : Option (Nat × List Char) := match cs with
    | '0' :: c :: rest =>
      if c == 'x' || c == 'X' then some (16, rest)
      else if c == 'o' || c == 'O' then some (8, rest)
      else if c == 'b' || c == 'B' then some (2, rest)
      else none
    | _ => none
  match radix? with
  | some (base, rest) =>
    let rest := match rest with
      | '_' :: r => r
      | r => r
    let (ds, after) := spanDigits base rest
    if ds.isEmpty then none else some (.int (digitsValue base ds), after)
  | none =>
    let (whole, rest) := spanDigits 10 cs
    let (frac, rest, isFloat) := match rest with
      | '.' :: r =>
        let (fs, r') := spanDigits 10 r
        (fs, r', true)
      | r => ([], r, false)
    let (exp, rest, hasExp) := match rest with
      | e :: r =>
        if e == 'e' || e == 'E' then
          let (neg, r') := match r with
            | '-' :: r'' => (true, r'')
            | '+' :: r'' => (false, r'')
            | r'' => (false, r'')
          let (es, r'') := spanDigits 10 r'
          if es.isEmpty then ((0 : Int), rest, false)
          else ((if neg then -(digitsValue 10 es : Int) else digitsValue 10 es), r'', true)
        else (0, rest, false)
      | [] => (0, [], false)
    if whole.isEmpty && frac.isEmpty then none
    else if !isFloat && !hasExp then some (.int (digitsValue 10 whole), rest)
    else
      let mantissa := digitsValue 10 (whole ++ frac)
      some (.float { mantissa := mantissa, exponent := exp - frac.length }, rest)

/-- Cuts the body of a text literal from the characters after its opening quote: the body as
    written, the characters after the closing quote, and how many line breaks the body holds.
    A single-quoted body may not hold a line break unless a backslash escapes it. -/
def scanString (q : Char) (triple : Bool) : List Char -> Option (List Char × List Char × Nat)
  | [] => none
  | '\\' :: c :: cs =>
    (scanString q triple cs).map fun (body, rest, breaks) =>
      ('\\' :: c :: body, rest, if c == '\n' then breaks + 1 else breaks)
  | c :: cs =>
    if c == q && (!triple || cs.take 2 == [q, q]) then
      some ([], if triple then cs.drop 2 else cs, 0)
    else if c == '\n' && !triple then none
    else (scanString q triple cs).map fun (body, rest, breaks) =>
      (c :: body, rest, if c == '\n' then breaks + 1 else breaks)

/-- How many line breaks come before the end of the text or the first unescaped closing quote. -/
def breaksBefore (cs : List Char) : Nat := (cs.filter (· == '\n')).length

/-- The value of up to `count` digits of a base at the front, with the rest. -/
def takeDigits (base count : Nat) (cs : List Char) : Nat × Nat × List Char :=
  let rec go : Nat -> Nat -> Nat -> List Char -> Nat × Nat × List Char
    | 0, acc, taken, rest => (acc, taken, rest)
    | k + 1, acc, taken, c :: rest =>
      match digitValue c with
      | some d => if d < base then go k (acc * base + d) (taken + 1) rest
        else (acc, taken, c :: rest)
      | none => (acc, taken, c :: rest)
    | _ + 1, acc, taken, [] => (acc, taken, [])
  go count 0 0 cs

/-- Resolves the escapes at the front of a body, for at most `fuel` characters. An escape that
    the language does not know keeps its backslash. -/
def unescapeGo : Nat -> List Char -> List Char
  | 0, cs => cs
  | _ + 1, [] => []
  | n + 1, '\\' :: c :: cs =>
    match c with
    | '\n' => unescapeGo n cs
    | '\\' => '\\' :: unescapeGo n cs
    | '\'' => '\'' :: unescapeGo n cs
    | '"' => '"' :: unescapeGo n cs
    | 'a' => Char.ofNat 7 :: unescapeGo n cs
    | 'b' => Char.ofNat 8 :: unescapeGo n cs
    | 'f' => Char.ofNat 12 :: unescapeGo n cs
    | 'n' => '\n' :: unescapeGo n cs
    | 'r' => '\r' :: unescapeGo n cs
    | 't' => '\t' :: unescapeGo n cs
    | 'v' => Char.ofNat 11 :: unescapeGo n cs
    | 'x' =>
      let (v, taken, rest) := takeDigits 16 2 cs
      if taken == 2 then Char.ofNat v :: unescapeGo n rest else '\\' :: 'x' :: unescapeGo n cs
    | 'u' =>
      let (v, taken, rest) := takeDigits 16 4 cs
      if taken == 4 then Char.ofNat v :: unescapeGo n rest else '\\' :: 'u' :: unescapeGo n cs
    | 'U' =>
      let (v, taken, rest) := takeDigits 16 8 cs
      if taken == 8 then Char.ofNat v :: unescapeGo n rest else '\\' :: 'U' :: unescapeGo n cs
    | _ =>
      if '0' ≤ c && c ≤ '7' then
        let (v, _, rest) := takeDigits 8 3 (c :: cs)
        Char.ofNat v :: unescapeGo n rest
      else '\\' :: c :: unescapeGo n cs
  | n + 1, c :: cs => c :: unescapeGo n cs

/-- Resolves the escapes of the body of a text literal; each step reads at least one character,
    so the length bounds the steps. -/
def unescape (cs : List Char) : List Char := unescapeGo (cs.length + 1) cs

/-- The state of the lexer between tokens. -/
structure LexState where
  out : Array Lexeme := #[]
  line : Nat := 1
  indents : List Nat := [0]
  brackets : List (Char × Nat) := []
  atLineStart : Bool := true

namespace LexState

def emit (st : LexState) (t : Token) : LexState :=
  { st with out := st.out.push ⟨t, st.line⟩ }

end LexState

/-- The depth of the indentation at the front of a line, with the rest of the line: a tab
    moves to the next multiple of eight. -/
def indentation : Nat -> List Char -> Nat × List Char
  | col, ' ' :: cs => indentation (col + 1) cs
  | col, '\t' :: cs => indentation ((col / 8 + 1) * 8) cs
  | _, '\x0c' :: cs => indentation 0 cs
  | col, cs => (col, cs)

/-- The characters after the end of the current line. -/
def afterLine (cs : List Char) : List Char :=
  match cs.dropWhile (· != '\n') with
  | _ :: rest => rest
  | [] => []

/-- The opening bracket that a closing one matches. -/
def opening (c : Char) : Char :=
  match c with
  | ')' => '('
  | ']' => '['
  | _ => '{'

/-- Closes the indentations deeper than a line's; the line must meet one of them exactly. -/
def closeIndents (st : LexState) (col : Nat) : Except SyntaxError LexState :=
  let kept := st.indents.dropWhile (· > col)
  match kept with
  | top :: _ =>
    if top == col then
      let closed := st.indents.length - kept.length
      let st := (List.range closed).foldl (fun s _ => s.emit .dedent) st
      .ok { st with indents := kept }
    else .error { message := "unindent does not match any outer indentation level",
                  line := st.line, kind := "IndentationError" }
  | [] => .error { message := "unindent does not match any outer indentation level",
                   line := st.line, kind := "IndentationError" }

/-- Ends the token stream: the last logical line, the open indentations, then the end. -/
def finish (st : LexState) : Except SyntaxError (Array Lexeme) :=
  match st.brackets with
  | (b, line) :: _ => .error { message := "'" ++ b.toString ++ "' was never closed", line }
  | [] =>
    let st := if st.atLineStart then st else st.emit .newline
    let st := (st.indents.filter (· > 0)).foldl (fun s _ => s.emit .dedent) st
    .ok (st.emit .eof).out

/-- Reads a text literal whose prefix was read; `cs` starts at its opening quote. -/
def readString (st : LexState) (pfx : String) (cs : List Char) :
    Except SyntaxError (LexState × List Char) :=
  match cs with
  | q :: rest =>
    let triple := rest.take 2 == [q, q]
    let body := if triple then rest.drop 2 else rest
    match scanString q triple body with
    | some (chars, after, breaks) =>
      let lower := pfx.toLower
      let isRaw := lower.contains 'r'
      let token :=
        if lower.contains 'f' then Token.fstr (String.ofList chars) isRaw
        else Token.str (String.ofList (if isRaw then chars else unescape chars))
      .ok ({ st.emit token with line := st.line + breaks, atLineStart := false }, after)
    | none =>
      if triple then
        .error { message := "unterminated triple-quoted string literal (detected at line " ++
          toString (st.line + breaksBefore body) ++ ")", line := st.line }
      else
        .error { message := "unterminated string literal (detected at line " ++
          toString st.line ++ ")", line := st.line }
  | [] => .ok (st, [])

/-- Reads one step of the text: the layout at the start of a line, or one token. -/
def lexStep (st : LexState) (cs : List Char) : Except SyntaxError (LexState × List Char) :=
  if st.atLineStart && st.brackets.isEmpty then
    let (col, rest) := indentation 0 cs
    match rest with
    | [] => .ok (st, [])
    | '\n' :: more => .ok ({ st with line := st.line + 1 }, more)
    | '#' :: _ => .ok ({ st with line := st.line + 1 }, afterLine rest)
    | _ =>
      let top := st.indents.headD 0
      if col > top then
        .ok ({ st.emit .indent with indents := col :: st.indents, atLineStart := false }, rest)
      else if col == top then .ok ({ st with atLineStart := false }, rest)
      else do
        let st <- closeIndents st col
        .ok ({ st with atLineStart := false }, rest)
  else
    match cs with
    | [] => .ok (st, [])
    | '\n' :: rest =>
      if st.brackets.isEmpty then
        .ok ({ st.emit .newline with line := st.line + 1, atLineStart := true }, rest)
      else .ok ({ st with line := st.line + 1 }, rest)
    | '\\' :: '\n' :: rest => .ok ({ st with line := st.line + 1 }, rest)
    | ' ' :: rest | '\t' :: rest | '\x0c' :: rest => .ok (st, rest)
    | '#' :: rest => .ok (st, rest.dropWhile (· != '\n'))
    | c :: rest =>
      if isNameStart c then
        let word := c :: rest.takeWhile isNameChar
        let after := rest.dropWhile isNameChar
        let text := String.ofList word
        match after with
        | q :: _ =>
          if (q == '\'' || q == '"') && stringPrefixes.contains text.toLower then
            readString st text after
          else .ok (st.emit (.name text), after)
        | [] => .ok (st.emit (.name text), after)
      else if c.isDigit || (c == '.' && (rest.head?.map Char.isDigit).getD false) then
        match readNumber (c :: rest) with
        | some (t, after) => .ok (st.emit t, after)
        | none => .error { message := "invalid decimal literal", line := st.line }
      else if c == '\'' || c == '"' then readString st "" (c :: rest)
      else match operatorAt? (c :: rest) with
        | some o =>
          let after := (c :: rest).drop o.length
          if c == '(' || c == '[' || c == '{' then
            .ok ({ st.emit (.op o) with brackets := (c, st.line) :: st.brackets }, after)
          else if c == ')' || c == ']' || c == '}' then
            match st.brackets with
            | [] => .error { message := "unmatched '" ++ c.toString ++ "'", line := st.line }
            | (b, line) :: outer =>
              if b == opening c then .ok ({ st.emit (.op o) with brackets := outer }, after)
              else .error { message := "closing parenthesis '" ++ c.toString ++
                "' does not match opening parenthesis '" ++ b.toString ++ "'" ++
                (if line == st.line then "" else " on line " ++ toString line), line := st.line }
          else .ok (st.emit (.op o), after)
        | none => .error { message := "invalid syntax", line := st.line }

/-- Runs the lexer for at most `fuel` steps. -/
def lexLoop : Nat -> LexState -> List Char -> Except SyntaxError (Array Lexeme)
  | 0, st, _ => finish st
  | _ + 1, st, [] => finish st
  | n + 1, st, cs => do
    let (st, rest) <- lexStep st cs
    lexLoop n st rest

/-- The tokens of a file. Every step reads at least one character, except the step at the
    start of a line, which is followed by one that does; twice the length bounds the steps. -/
def tokenize (text : String) : Except SyntaxError (Array Lexeme) :=
  let cs := normalizeBreaks text.toList
  lexLoop (2 * cs.length + 2) {} cs

end Blueprints.Script
