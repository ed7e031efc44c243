import Blueprints.Text.IdentifierChar

namespace Blueprints.Layout

/-- The kinds of tokens. -/
inductive TokenKind where
  | name
  | number
  | string
  | op
  | comment
  | nl
  | newline
  | indent
  | dedent
  | endmarker
  | error
  | standalone
deriving Repr, Inhabited, BEq

/-- A token with its place in the source. -/
structure RawToken where
  kind : TokenKind
  value : String
  line : Nat
  col : Nat
  endLine : Nat
  endCol : Nat
  text : String
deriving Repr, Inhabited

/-- Why the source cannot be cut into tokens. -/
inductive LexError where
  | eof (message : String) (line col : Nat)
  | dedent (line : Nat) (text : String)
deriving Repr, Inhabited

/-- Whether a character is an ASCII digit. -/
def isDigit (c : Char) : Bool := '0' ≤ c && c ≤ '9'

/-- Whether a character is a hexadecimal digit. -/
def isHexDigit (c : Char) : Bool :=
  isDigit c || ('a' ≤ c && c ≤ 'f') || ('A' ≤ c && c ≤ 'F')

/-- The characters of a line from `i` on, as far as they keep the property. -/
def runWhile (cs : Array Char) (p : Char -> Bool) (i : Nat) : Nat :=
  go (cs.size - i) i
where
  go : Nat -> Nat -> Nat
    | 0, j => j
    | n + 1, j => if h : j < cs.size then (if p cs[j] then go n (j + 1) else j) else j

/-- `D+(_D+)*` for digits of a class: where it ends, when such a digit stands at `i`. -/
def digitGroups (cs : Array Char) (digit : Char -> Bool) (i : Nat) : Option Nat :=
  let first := runWhile cs digit i
  if first == i then none else some (go (cs.size - first) first)
where
  go : Nat -> Nat -> Nat
    | 0, j => j
    | n + 1, j =>
      if cs[j]? == some '_' then
        let k := runWhile cs digit (j + 1)
        if k == j + 1 then j else go n k
      else j

/-- Whether the character at `i` is one of the given ones. -/
def charIn (cs : Array Char) (i : Nat) (set : String) : Bool :=
  match cs[i]? with
  | some c => set.contains c
  | none => false

/-- An exponent `[eE][-+]?D+(_D+)*` at `i`: where it ends. -/
def exponentAt (cs : Array Char) (i : Nat) : Option Nat :=
  if charIn cs i "eE" then
    let j := if charIn cs (i + 1) "+-" then i + 2 else i + 1
    digitGroups cs isDigit j
  else none

/-- The ends of the floating literals at `i`, in the order they are preferred. -/
def floatEnds (cs : Array Char) (i : Nat) : List Nat :=
  let withExponent (e : Nat) : List Nat :=
    match exponentAt cs e with
    | some x => [x, e]
    | none => [e]
  let pointed : List Nat :=
    match digitGroups cs isDigit i with
    | some e =>
      if cs[e]? == some '.' then
        match digitGroups cs isDigit (e + 1) with
        | some f => withExponent f
        | none => withExponent (e + 1)
      else []
    | none => []
  let leadingDot : List Nat :=
    if cs[i]? == some '.' then
      match digitGroups cs isDigit (i + 1) with
      | some f => withExponent f
      | none => []
    else []
  let exponentOnly : List Nat :=
    match digitGroups cs isDigit i with
    | some e => (exponentAt cs e).toList
    | none => []
  pointed ++ leadingDot ++ exponentOnly

/-- An integer literal at `i`: where it ends. -/
def integerEnd (cs : Array Char) (i : Nat) : Option Nat :=
  let long (e : Nat) : Nat := if charIn cs e "lL" then e + 1 else e
  let based (marks : String) (digit : Char -> Bool) (optional : Bool) : Option Nat :=
    if cs[i]? == some '0' then
      let j := if charIn cs (i + 1) marks then i + 2
        else if optional then i + 1 else 0
      if j == 0 then none
      else
        let k := if cs[j]? == some '_' then j + 1 else j
        (digitGroups cs digit k).map long
    else none
  match based "xX" isHexDigit false with
  | some e => some e
  | none =>
    match based "bB" (fun c => c == '0' || c == '1') false with
    | some e => some e
    | none =>
      match based "oO" (fun c => '0' ≤ c && c ≤ '7') true with
      | some e => some e
      | none =>
        match cs[i]? with
        | some c =>
          if '1' ≤ c && c ≤ '9' then (digitGroups cs isDigit i).map long
          else if c == '0' then some (long (i + 1))
          else none
        | none => none

/-- A number literal at `i`: where it ends. An imaginary literal is tried first, then a
    floating one, then an integer. -/
def numberEnd (cs : Array Char) (i : Nat) : Option Nat :=
  let imagFrom (e : Nat) : Option Nat := if charIn cs e "jJ" then some (e + 1) else none
  let imag : Option Nat :=
    match (digitGroups cs isDigit i).bind imagFrom with
    | some e => some e
    | none => (floatEnds cs i).findSome? imagFrom
  match imag with
  | some e => some e
  | none =>
    match (floatEnds cs i).head? with
    | some e => some e
    | none => integerEnd cs i

def longOperators : List String :=
  ["**=", "**", ">>=", ">>", "<<=", "<<", "<>", "!=", "//=", "//", "->"]

/-- An operator, bracket or delimiter at `i`: where it ends. -/
def operatorEnd (cs : Array Char) (i : Nat) : Option Nat :=
  let startsWith (s : String) : Bool :=
    (s.toList.zipIdx.all fun (c, k) => cs[i + k]? == some c)
  match longOperators.find? startsWith with
  | some o => some (i + o.length)
  | none =>
    if charIn cs i "+-*/%&@|^=<>:" then
      some (if cs[i + 1]? == some '=' then i + 2 else i + 1)
    else if charIn cs i "~[](){}" then some (i + 1)
    else if cs[i]? == some '\r' && cs[i + 1]? == some '\n' then some (i + 2)
    else if charIn cs i "\n;.,`@" then some (i + 1)
    else none

/-- The lengths of the string prefixes that stand at `i`, in the order they are tried: one
    letter, then two, then none. -/
def prefixLengths (cs : Array Char) (i : Nat) : List Nat :=
  let one := if charIn cs i "uUrRbBfF" then [1] else []
  let two :=
    if (charIn cs i "rR" && charIn cs (i + 1) "fFbB") ||
        (charIn cs i "fFbBuU" && charIn cs (i + 1) "rR") then [2] else []
  one ++ two ++ [0]

/-- The opening quotes of a triple-quoted string at `i`: where they end. -/
def tripleOpenEnd (cs : Array Char) (i : Nat) : Option Nat :=
  (prefixLengths cs i).findSome? fun n =>
    let j := i + n
    match cs[j]? with
    | some q =>
      if (q == '"' || q == '\'') && cs[j + 1]? == some q && cs[j + 2]? == some q then
        some (j + 3)
      else none
    | none => none

/-- The body of a one-line string from `i`, just after its opening quote `q`: where it ends,
    after the closing quote or after a backslash and a line break that continue it. -/
def quotedEnd (cs : Array Char) (q : Char) (i : Nat) : Option Nat :=
  go (cs.size + 1) i
where
  go : Nat -> Nat -> Option Nat
    | 0, _ => none
    | n + 1, j =>
      match cs[j]? with
      | none => none
      | some c =>
        if c == q then some (j + 1)
        else if c == '\n' then none
        else if c == '\\' then
          match cs[j + 1]? with
          | some '\n' => some (j + 2)
          | some '\r' => if cs[j + 2]? == some '\n' then some (j + 3) else go n (j + 2)
          | some _ => go n (j + 2)
          | none => none
        else go n (j + 1)

/-- A string on one line at `i`, or one that a backslash continues: where it ends. -/
def oneLineStringEnd (cs : Array Char) (i : Nat) : Option Nat :=
  let tryQuote (q : Char) : Option Nat :=
    (prefixLengths cs i).findSome? fun n =>
      if cs[i + n]? == some q then quotedEnd cs q (i + n + 1) else none
  match tryQuote '\'' with
  | some e => some e
  | none => tryQuote '"'

def isNameStop (c : Char) : Bool :=
  c.isWhitespace || c.toNat == 0x85 || c.toNat == 0xa0 || c.toNat == 0x1680 ||
    (0x2000 ≤ c.toNat && c.toNat ≤ 0x200a) || c.toNat == 0x2028 || c.toNat == 0x2029 ||
    c.toNat == 0x202f || c.toNat == 0x205f || c.toNat == 0x3000 ||
    (0x1c ≤ c.toNat && c.toNat ≤ 0x1f) || "#()[]\x7b\x7d+-*/!@$%^&=|;:'\",.<>?`~\\".contains c

def slice (cs : Array Char) (i j : Nat) : String := String.ofList ((cs.extract i j).toList)

/-- The closing of a string that runs over lines, looked for from the start of a line: where
    it ends. A backslash escapes the character after it, but not a line break. -/
def closingEnd (cs : Array Char) (quote : String) (i : Nat) : Option Nat :=
  let q := quote.toList.headD '"'
  let triple := quote.length == 3
  go (cs.size + 1) i q triple
where
  go : Nat -> Nat -> Char -> Bool -> Option Nat
    | 0, _, _, _ => none
    | n + 1, j, q, triple =>
      match cs[j]? with
      | none => none
      | some c =>
        if c == '\\' then
          match cs[j + 1]? with
          | some '\n' => none
          | some _ => go n (j + 2) q triple
          | none => none
        else if c == q then
          if !triple then some (j + 1)
          else if cs[j + 1]? == some q && cs[j + 2]? == some q then some (j + 3)
          else go n (j + 1) q triple
        else if !triple && c == '\n' then none
        else go n (j + 1) q triple

/-- The state of reading tokens between lines. -/
structure LexState where
  out : List RawToken := []
  parens : Int := 0
  continued : Bool := false
  indents : List Nat := [0]
  open? : Option (String × String × Nat × Nat × String × Bool) := none

/-- The column that the leading blanks of a line reach, and where they end. -/
def measureIndent (cs : Array Char) : Nat × Nat :=
  go cs.size 0 0
where
  go : Nat -> Nat -> Nat -> Nat × Nat
    | 0, i, col => (col, i)
    | n + 1, i, col =>
      match cs[i]? with
      | some ' ' => go n (i + 1) (col + 1)
      | some '\t' => go n (i + 1) ((col / 8 + 1) * 8)
      | some '\x0c' => go n (i + 1) 0
      | _ => (col, i)

/-- The quotes that close a string whose opening token is given. -/
def closingQuotes (opening : String) : String :=
  let body := opening.dropWhile (fun c => c != '"' && c != '\'')
  if body.startsWith "\"\"\"" then "\"\"\""
  else if body.startsWith "'''" then "'''"
  else if body.startsWith "\"" then "\"" else "'"

/-- Reads the tokens of one physical line from `pos`. -/
def scanLine (cs : Array Char) (line : String) (lnum : Nat) :
    Nat -> LexState -> Nat -> LexState
  | 0, st, _ => st
  | fuel + 1, st, pos =>
    if pos ≥ cs.size then st
    else
      let start := runWhile cs (fun c => c == ' ' || c == '\t' || c == '\x0c') pos
      let emit (st : LexState) (k : TokenKind) (a b : Nat) : LexState :=
        { st with out := RawToken.mk k (slice cs a b) lnum a lnum b line :: st.out }
      let errorHere : LexState :=
        { st with
          out := RawToken.mk .error (slice cs pos (pos + 1)) lnum pos lnum (pos + 1) line :: st.out }
      match cs[start]? with
      | none => st
      | some initial =>
        if initial == '\\' &&
            (cs[start + 1]? == some '\n' ||
              (cs[start + 1]? == some '\r' && cs[start + 2]? == some '\n')) then
          let e := if cs[start + 1]? == some '\n' then start + 2 else start + 3
          scanLine cs line lnum fuel { emit st .nl start e with continued := true } e
        else if initial == '#' then
          let e := runWhile cs (fun c => c != '\r' && c != '\n') start
          scanLine cs line lnum fuel (emit st .comment start e) e
        else match tripleOpenEnd cs start with
        | some e =>
          let quote := closingQuotes (slice cs start e)
          match closingEnd cs quote e with
          | some f => scanLine cs line lnum fuel (emit st .string start f) f
          | none => { st with open? := some (slice cs start cs.size, line, lnum, start, quote,
              false) }
        | none =>
          match numberEnd cs start with
          | some e => scanLine cs line lnum fuel (emit st .number start e) e
          | none =>
            match operatorEnd cs start with
            | some e =>
              if initial == '\n' || initial == '\r' then
                let k := if st.parens > 0 then TokenKind.nl else .newline
                scanLine cs line lnum fuel (emit st k start e) e
              else
                let parens := if "([\x7b".contains initial then st.parens + 1
                  else if ")]\x7d".contains initial then st.parens - 1 else st.parens
                scanLine cs line lnum fuel { emit st .op start e with parens } e
            | none =>
              match oneLineStringEnd cs start with
              | some e =>
                if cs[e - 1]? == some '\n' then
                  let quote := closingQuotes (slice cs start e)
                  { st with open? := some (slice cs start cs.size, line, lnum, start, quote,
                      true) }
                else scanLine cs line lnum fuel (emit st .string start e) e
              | none =>
                let e := runWhile cs (fun c => !isNameStop c) start
                if e == start then scanLine cs line lnum fuel errorHere (pos + 1)
                else if initial == '_' || Text.isIdentStart initial then
                  scanLine cs line lnum fuel (emit st .name start e) e
                else scanLine cs line lnum fuel (emit st .op start e) e

/-- Reads the tokens of one physical line, `lnum` counted from one. -/
def lexLine (st : LexState) (lnum : Nat) (line : String) : Except LexError LexState := do
  let cs := line.toList.toArray
  match st.open? with
  | some (soFar, lines, sline, scol, quote, needCont) =>
    match closingEnd cs quote 0 with
    | some e =>
      let tok := RawToken.mk .string (soFar ++ slice cs 0 e) sline scol lnum e (lines ++ line)
      pure (scanLine cs line lnum (cs.size + 1) { st with out := tok :: st.out, open? := none } e)
    | none =>
      if needCont && !line.endsWith "\\\n" && !line.endsWith "\\\r\n" then
        let tok : RawToken := RawToken.mk .error (soFar ++ line) sline scol lnum cs.size lines
        pure { st with out := tok :: st.out, open? := none }
      else pure { st with open? := some (soFar ++ line, lines ++ line, sline, scol, quote,
        needCont) }
  | none =>
    if st.parens == 0 && !st.continued then
      let (column, pos) := measureIndent cs
      if pos ≥ cs.size then return st
      let c := cs[pos]?.getD ' '
      if c == '#' || c == '\r' || c == '\n' then
        if c == '#' then
          let e := runWhile cs (fun c => c != '\r' && c != '\n') pos
          let com : RawToken := RawToken.mk .comment (slice cs pos e) lnum pos lnum e line
          let nl : RawToken := RawToken.mk .nl (slice cs e cs.size) lnum e lnum cs.size line
          return { st with out := nl :: com :: st.out }
        else
          let nl : RawToken := RawToken.mk .nl (slice cs pos cs.size) lnum pos lnum cs.size line
          return { st with out := nl :: st.out }
      let mut st := st
      if column > st.indents.headD 0 then
        let tok : RawToken := RawToken.mk .indent (slice cs 0 pos) lnum 0 lnum pos line
        st := { st with indents := column :: st.indents, out := tok :: st.out }
      for _ in st.indents do
        if column < st.indents.headD 0 then
          if !st.indents.contains column then throw (.dedent lnum line)
          let tok : RawToken := RawToken.mk .dedent "" lnum pos lnum pos line
          st := { st with indents := st.indents.drop 1, out := tok :: st.out }
      pure (scanLine cs line lnum (cs.size + 1) st pos)
    else
      pure (scanLine cs line lnum (cs.size + 1) { st with continued := false } 0)

/-- The physical lines of a text, each with its line break. -/
def physicalLines (src : String) : List String :=
  let parts := src.splitOn "\n"
  let n := parts.length
  (parts.zipIdx.filterMap fun (p, i) =>
    if i + 1 < n then some (p ++ "\n") else if p.isEmpty then none else some p)

/-- The tokens of a source that ends with a line break. When the source cannot be cut into
    tokens, the tokens before the fault come with it: a reader that fails on them fails first. -/
def tokenize (src : String) : List RawToken × Option LexError := Id.run do
  let lines := physicalLines src
  let mut st : LexState := {}
  let mut lnum := 0
  for line in lines do
    lnum := lnum + 1
    match lexLine st lnum line with
    | .ok st' => st := st'
    | .error e => return (st.out.reverse, some e)
  let last := lnum + 1
  if let some (_, _, sline, scol, _, _) := st.open? then
    return (st.out.reverse, some (.eof "EOF in multi-line string" sline scol))
  if st.parens != 0 || st.continued then
    return (st.out.reverse, some (.eof "EOF in multi-line statement" last 0))
  let mut out := st.out
  for _ in st.indents.drop 1 do
    out := RawToken.mk .dedent "" last 0 last 0 "" :: out
  out := RawToken.mk .endmarker "" last 0 last 0 "" :: out
  (out.reverse, none)

end Blueprints.Layout
