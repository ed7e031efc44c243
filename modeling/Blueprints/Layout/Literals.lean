import Blueprints.Text.Pattern

namespace Blueprints.Layout

open Text

def stripStart (s : String) : String := String.ofList (s.toList.dropWhile isBlankChar)

def stripEnd (s : String) : String := String.ofList (s.toList.reverse.dropWhile isBlankChar).reverse

def stripBlanks (s : String) : String := stripEnd (stripStart s)

/-- The letters that may stand before the quotes of a string. -/
def stringPrefixChars : List Char := ['f', 'u', 'r', 'b', 'F', 'U', 'R', 'B']

/-- The prefix letters of a string literal. -/
def stringPrefixOf (s : String) : String :=
  String.ofList (s.toList.takeWhile (stringPrefixChars.contains ·))

/-- A string literal whose prefix letters are lower case, without the `u` prefix. -/
def normalizeStringPrefix (s : String) : String :=
  let p := stringPrefixOf s
  let rest := String.ofList (s.toList.drop p.length)
  let letters := p.toList.filterMap fun c =>
    if c == 'F' then some 'f' else if c == 'B' then some 'b'
    else if c == 'U' || c == 'u' then none else some c
  String.ofList letters ++ rest

/-- The number of backslashes side by side from a place on. -/
def backslashRun (cs : Array Char) (i : Nat) : Nat :=
  go (cs.size - i) i 0
where
  go : Nat -> Nat -> Nat -> Nat
    | 0, _, n => n
    | k + 1, j, n => if cs[j]? == some '\\' then go k (j + 1) (n + 1) else n

/-- Whether the characters `q` stand at a place. -/
def standsAt (cs : Array Char) (i : Nat) (q : List Char) : Bool :=
  q.zipIdx.all fun (c, k) => cs[i + k]? == some c

/-- Where a quote `q` escaped by an odd run of backslashes matches at `i`: the end of the match
    and what replaces it, the run less one backslash. The run must follow a character that is
    not a backslash, or the start. -/
def escapedQuoteAt (cs : Array Char) (q : List Char) (i : Nat) : Option (Nat × List Char) :=
  let after (k : Nat) (lead : List Char) : Option (Nat × List Char) :=
    if cs[k]? == some '\\' then
      let r := backslashRun cs (k + 1)
      if r % 2 == 0 && standsAt cs (k + 1 + r) q then
        some (k + 1 + r + q.length, lead ++ List.replicate r '\\' ++ q)
      else none
    else none
  match cs[i]? with
  | some c =>
    if c != '\\' then
      match after (i + 1) [c] with
      | some m => some m
      | none => if i == 0 then after 0 [] else none
    else if i == 0 then after 0 [] else none
  | none => none

/-- Where a bare quote `q`, after an even run of backslashes, matches at `i`: the end of the
    match and what replaces it, with one more backslash before the quote. The run must follow
    a character that is not a backslash, or the start. -/
def bareQuoteAt (cs : Array Char) (q : List Char) (i : Nat) : Option (Nat × List Char) :=
  let after (k : Nat) (lead : List Char) : Option (Nat × List Char) :=
    let r := backslashRun cs k
    if r % 2 == 0 && standsAt cs (k + r) q then
      some (k + r + q.length, lead ++ List.replicate r '\\' ++ ['\\'] ++ q)
    else none
  match cs[i]? with
  | some c =>
    let first := if c != '\\' then after (i + 1) [c] else none
    match first with
    | some m => some m
    | none => if i == 0 then after 0 [] else none
  | none => none

/-- One pass of a rule over a text, left to right, matches not overlapping. -/
def rewritePass (rule : Array Char -> Nat -> Option (Nat × List Char)) (s : String) : String :=
  let cs := s.toList.toArray
  String.ofList (go cs (cs.size + 1) 0 [])
where
  go (cs : Array Char) : Nat -> Nat -> List Char -> List Char
    | 0, _, acc => acc.reverse
    | fuel + 1, i, acc =>
      if i ≥ cs.size then acc.reverse
      else match rule cs i with
        | some (j, rep) => go cs fuel (max j (i + 1)) (rep.reverse ++ acc)
        | none => go cs fuel (i + 1) (cs[i]?.toList ++ acc)

def rewriteTwice (rule : Array Char -> Nat -> Option (Nat × List Char)) (s : String) : String :=
  rewritePass rule (rewritePass rule s)

/-- How many times a text occurs in another, counted left to right without overlap. -/
def occurrences (s : String) (part : String) : Nat :=
  let cs := s.toList.toArray
  let q := part.toList
  if q.isEmpty then 0 else go cs q (cs.size + 1) 0 0
where
  go (cs : Array Char) (q : List Char) : Nat -> Nat -> Nat -> Nat
    | 0, _, n => n
    | fuel + 1, i, n =>
      if i ≥ cs.size then n
      else if standsAt cs i q then go cs q fuel (i + q.length) (n + 1)
      else go cs q fuel (i + 1) n

/-- Whether a replacement field of a formatted string, `{...}`, holds a backslash. -/
def fieldHasBackslash (s : String) : Bool :=
  let cs := s.toList.toArray
  go cs (cs.size + 1) 0
where
  go (cs : Array Char) : Nat -> Nat -> Bool
    | 0, _ => false
    | fuel + 1, i =>
      if i ≥ cs.size then false
      else if cs[i]? == some '\x7b' && (i == 0 || cs[i - 1]? != some '\x7b') &&
          i + 1 < cs.size && cs[i + 1]? != some '\x7b' then
        match closeAt cs (cs.size + 1) (i + 2) with
        | some k =>
          if ((cs.extract (i + 1) k).toList.contains '\\') then true else go cs fuel (k + 1)
        | none => go cs fuel (i + 1)
      else go cs fuel (i + 1)
  closeAt (cs : Array Char) : Nat -> Nat -> Option Nat
    | 0, _ => none
    | fuel + 1, k =>
      match cs[k]? with
      | none => none
      | some c =>
        if c == '\x7d' && cs[k + 1]? != some '\x7d' then some k
        else if c == '\n' then none
        else closeAt cs fuel (k + 1)

/-- A string literal in double quotes when that takes no more backslashes than it has; a
    triple-quoted one in single quotes turns double when its text allows. -/
def normalizeStringQuotes (value : String) : String := Id.run do
  let body0 := String.ofList (value.toList.dropWhile (stringPrefixChars.contains ·))
  if body0.startsWith "\"\"\"" then return value
  let (orig, new) :=
    if body0.startsWith "'''" then ("'''", "\"\"\"")
    else if body0.startsWith "\"" then ("\"", "'") else ("'", "\"")
  let quotePos := value.length - body0.length
  let pre := String.ofList (value.toList.take quotePos)
  let inner := String.ofList ((value.toList.drop (quotePos + orig.length)).take
    (value.length - quotePos - 2 * orig.length))
  let mut value := value
  let mut body := inner
  let mut newBody := inner
  if (pre.toList.map Char.toLower).contains 'r' then
    if occurrences body new != occurrences body ("\\" ++ new) then return value
  else
    newBody := rewriteTwice (fun cs i => escapedQuoteAt cs new.toList i) body
    if body != newBody then
      body := newBody
      value := pre ++ orig ++ body ++ orig
    newBody := rewriteTwice (fun cs i => escapedQuoteAt cs orig.toList i) newBody
    newBody := rewriteTwice (fun cs i => bareQuoteAt cs new.toList i) newBody
  if (pre.toList.map Char.toLower).contains 'f' && fieldHasBackslash newBody then return value
  if new == "\"\"\"" && newBody.endsWith "\"" then
    newBody := String.ofList newBody.toList.dropLast ++ "\\\""
  let origEscapes := body.toList.count '\\'
  let newEscapes := newBody.toList.count '\\'
  if newEscapes > origEscapes then return value
  if newEscapes == origEscapes && orig == "\"" then return value
  pre ++ new ++ newBody ++ new

/-- A decimal literal with a digit on both sides of its point. -/
def completeFloat (text : String) : String :=
  match text.splitOn "." with
  | [before, after] =>
    (if before.isEmpty then "0" else before) ++ "." ++ (if after.isEmpty then "0" else after)
  | _ => text

/-- A number literal in lower case, with the digits of a hexadecimal one in upper case and no
    point left bare. -/
def normalizeNumber (value : String) : String :=
  let text := value.toLower
  if text.startsWith "0b" then text
  else if text.startsWith "0x" then
    "0x" ++ (String.ofList (text.toList.drop 2)).toUpper
  else if text.contains 'e' then
    match text.splitOn "e" with
    | [before, after] =>
      let (sign, digits) :=
        if after.startsWith "-" then ("-", String.ofList (after.toList.drop 1))
        else if after.startsWith "+" then ("", String.ofList (after.toList.drop 1))
        else ("", after)
      completeFloat before ++ "e" ++ sign ++ digits
    | _ => text
  else if text.endsWith "j" then
    completeFloat (String.ofList text.toList.dropLast) ++ "j"
  else completeFloat text

/-- A comment in its standard spelling: no blanks at its end, and a blank after the `#` unless
    a character that marks a special comment follows it. -/
def makeComment (content : String) : String :=
  let content := stripEnd content
  if content.isEmpty then "#"
  else
    let body := if content.startsWith "#" then String.ofList (content.toList.drop 1) else content
    let body :=
      if body.startsWith " " && !(stripStart body).startsWith "type:" then
        " " ++ String.ofList (body.toList.drop 1)
      else body
    let body :=
      match body.toList.head? with
      | some c => if " !:#'%".contains c then body else " " ++ body
      | none => body
    "#" ++ body

/-- A comment found before a token: whether it stands on a line of its own, its text, and the
    number of blank lines before it. -/
structure Remark where
  standalone : Bool
  text : String
  newlines : Nat
deriving Repr, Inhabited

/-- The lines of the text before a token, broken at line feeds with any carriage return just
    before them. -/
def prefixLines (pre : String) : List String :=
  (pre.splitOn "\n").map fun l =>
    if l.endsWith "\r" then String.ofList l.toList.dropLast else l

/-- The comments in the text before a token. The first one is a trailing comment when it stands
    on the token's own line and the token does not end the file; the others stand alone. -/
def listRemarks (pre : String) (atEnd : Bool) : List Remark :=
  if !pre.contains '#' then [] else go (prefixLines pre) 0 0
where
  go : List String -> Nat -> Nat -> List Remark
    | [], _, _ => []
    | line :: rest, index, blanks =>
      let line := stripStart line
      let blanks := if line.isEmpty then blanks + 1 else blanks
      if !line.startsWith "#" then go rest (index + 1) blanks
      else
        { standalone := index != 0 || atEnd, text := makeComment line, newlines := blanks } ::
          go rest (index + 1) 0

/-- What stands before a token once its comments are taken out: the blank lines after the last
    comment, outside brackets, unless a backslash joined the lines; nothing inside brackets. -/
def normalizePrefix (pre : String) (insideBrackets : Bool) : String :=
  if insideBrackets then ""
  else
    let parts := pre.splitOn "#"
    if (parts.headD "").contains '\\' then ""
    else
      let count := (parts.getLastD "").toList.count '\n'
      let count := if parts.length > 1 then count - 1 else count
      String.ofList (List.replicate count '\n')

/-- The lines of a text as the language's `splitlines` gives them. -/
def textLines (s : String) : List String :=
  go s.toList []
where
  go : List Char -> List Char -> List String
    | [], acc => if acc.isEmpty then [] else [String.ofList acc.reverse]
    | '\r' :: '\n' :: rest, acc => String.ofList acc.reverse :: go rest []
    | c :: rest, acc =>
      if c == '\n' || c == '\r' || c.toNat == 0x0b || c.toNat == 0x0c ||
          (0x1c ≤ c.toNat && c.toNat ≤ 0x1e) || c.toNat == 0x85 || c.toNat == 0x2028 ||
          c.toNat == 0x2029 then
        String.ofList acc.reverse :: go rest []
      else go rest (c :: acc)

/-- Tabs in the leading blanks of a line turned into spaces, to the next multiple of eight,
    when a tab is among them and something follows. -/
def expandLeadingTabs (line : String) : String :=
  let cs := line.toList
  let lead := cs.takeWhile isBlankChar
  let rest := cs.drop lead.length
  if lead.contains '\t' && !rest.isEmpty then
    let expanded := lead.foldl (fun (acc : List Char) c =>
      if c == '\t' then acc ++ List.replicate (8 - acc.length % 8) ' ' else acc ++ [c]) []
    String.ofList (expanded ++ rest)
  else line

/-- The text of a docstring that runs over lines, indented again: its first line stripped, the
    common indentation of the others replaced by `indent`, blanks at their ends removed, and
    lines that are left empty emptied, except the last. -/
def fixDocstring (text indent : String) : String :=
  if text.isEmpty then text
  else
    let lines := (textLines text).map expandLeadingTabs
    let rest := lines.drop 1
    let depths := rest.filterMap fun l =>
      let s := stripStart l
      if s.isEmpty then none else some (l.length - s.length)
    let first := stripBlanks (lines.headD "")
    match depths.min? with
    | none => first
    | some d =>
      let lastIndex := lines.length - 2
      let trimmed := rest.zipIdx.map fun (l, i) =>
        let s := stripEnd (String.ofList (l.toList.drop d))
        if !s.isEmpty || i == lastIndex then indent ++ s else ""
      "\n".intercalate (first :: trimmed)

/-- Whether a string literal has triple quotes and runs over lines. -/
def isMultilineString (value : String) : Bool :=
  let body := String.ofList (value.toList.dropWhile (stringPrefixChars.contains ·))
  (body.startsWith "\"\"\"" || body.startsWith "'''") && value.contains '\n'

/-- A docstring written anew for a block at `depth`: quotes normalized, its text stripped or
    indented again, a blank added where the text would touch a quote or end in an odd run of
    backslashes, and a blank as the text of an empty one. -/
def formatDocstring (value : String) (depth : Nat) : String :=
  let normal := normalizeStringQuotes (normalizeStringPrefix value)
  let pre := stringPrefixOf normal
  let quoted := String.ofList (normal.toList.drop pre.length)
  let q := quoted.toList.headD '"'
  let quoteLen := if quoted.toList[1]? != some q then 1 else 3
  let inner := String.ofList ((quoted.toList.drop quoteLen).take (quoted.length - 2 * quoteLen))
  let text :=
    if isMultilineString value then
      fixDocstring inner (String.ofList (List.replicate (4 * depth) ' '))
    else stripBlanks inner
  let text :=
    if text.isEmpty then " "
    else
      let text := if text.toList.head? == some q then " " ++ text else text
      let text := if text.toList.getLast? == some q then text ++ " " else text
      if text.toList.getLast? == some '\\' then
        let run := (text.toList.reverse.takeWhile (· == '\\')).length
        if run % 2 == 1 then text ++ " " else text
      else text
  let quote := String.ofList (List.replicate quoteLen q)
  pre ++ quote ++ text ++ quote

end Blueprints.Layout
