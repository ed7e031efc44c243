import Blueprints.Value.Equality
import Blueprints.Text.Number

namespace Blueprints.Yaml
open Text

/-- A line of the text: how far it stands in, and what follows the indentation. -/
structure Line where
  indent : Nat
  content : String
deriving Inhabited, Repr

def linesOf (text : String) : Array Line :=
  ((text.splitOn "\n").map fun raw =>
    let raw := if raw.endsWith "\r" then String.ofList raw.toList.dropLast else raw
    let cs := raw.toList
    let n := (cs.takeWhile (· == ' ')).length
    { indent := n, content := String.ofList (cs.drop n) }).toArray

/-- Whether a line holds nothing but blanks or a comment. -/
def Line.isBlank (l : Line) : Bool :=
  let c := l.content.trimAscii.toString
  c.isEmpty || c.startsWith "#"

/-- A text without a trailing comment: a `#` after a blank outside quotes ends it. -/
def dropComment (s : String) : String :=
  let rec go : List Char -> Option Char -> Bool -> List Char -> List Char
    | [], _, _, acc => acc.reverse
    | c :: rest, quote, afterBlank, acc =>
      match quote with
      | some q => if c == q then go rest none false (c :: acc) else go rest quote false (c :: acc)
      | none =>
        if c == '#' && afterBlank then acc.reverse
        else if (c == '"' || c == '\'') && (acc.isEmpty || afterBlank || acc.head? == some '[' ||
            acc.head? == some '{' || acc.head? == some ',') then go rest (some c) false (c :: acc)
        else go rest none (c == ' ' || c == '\t') (c :: acc)
  let kept := go s.toList none true []
  String.ofList (kept.reverse.dropWhile (fun c => c == ' ' || c == '\t')).reverse

/-- Whether a run of characters is digits, possibly grouped by underscores. -/
def isDigitRun (cs : List Char) (digit : Char -> Bool) : Bool :=
  !cs.isEmpty && cs.all (fun c => digit c || c == '_') && cs.any digit

def digitsValue (base : Nat) (cs : List Char) : Nat :=
  cs.foldl (fun acc c =>
    if c == '_' then acc
    else
      let d := if c.isDigit then c.toNat - '0'.toNat
        else if 'a' ≤ c && c ≤ 'f' then c.toNat - 'a'.toNat + 10
        else c.toNat - 'A'.toNat + 10
      base * acc + d) 0

/-- Whether a character is a hexadecimal digit. -/
def isHexDigit (c : Char) : Bool :=
  c.isDigit || ('a' ≤ c && c ≤ 'f') || ('A' ≤ c && c ≤ 'F')

/-- The integer a plain scalar writes, if it writes one. -/
def plainInt? (s : String) : Option Int :=
  let (negative, body) := splitSign s.toList
  let signed (n : Nat) : Int := if negative then -(n : Int) else n
  match body with
  | '0' :: 'x' :: rest => if isDigitRun rest isHexDigit then some (signed (digitsValue 16 rest)) else none
  | '0' :: 'o' :: rest =>
    if isDigitRun rest (fun c => '0' ≤ c && c ≤ '7') then some (signed (digitsValue 8 rest)) else none
  | cs => if isDigitRun cs Char.isDigit then some (signed (digitsValue 10 cs)) else none

/-- The float a plain scalar writes, if it writes one: digits with a point or an exponent. -/
def plainFloat? (s : String) : Option Decimal :=
  let (_, body) := splitSign s.toList
  let hasMark := body.any (fun c => c == '.' || c == 'e' || c == 'E')
  let allowed := body.all (fun c => c.isDigit || c == '.' || c == 'e' || c == 'E' || c == '_' ||
    c == '-' || c == '+')
  if !hasMark || !allowed || !(body.any Char.isDigit) then none
  else match Text.NumberText.read? s with
    | some (.finite d) => some d
    | _ => none

/-- The value of a plain scalar by the core schema. -/
def resolvePlain (s : String) : Value :=
  if ["", "~", "null", "Null", "NULL"].contains s then .none
  else if ["true", "True", "TRUE"].contains s then .bool true
  else if ["false", "False", "FALSE"].contains s then .bool false
  else match plainInt? s with
    | some n => .int n
    | none => match plainFloat? s with
      | some d => .float d
      | none => .str s

/-- The character a double-quoted escape stands for, and the characters after it. -/
def unescape : List Char -> Option (String × List Char)
  | 'n' :: rest => some ("\n", rest)
  | 't' :: rest => some ("\t", rest)
  | 'r' :: rest => some ("\r", rest)
  | '0' :: rest => some ("\x00", rest)
  | 'a' :: rest => some ("\x07", rest)
  | 'b' :: rest => some ("\x08", rest)
  | 'e' :: rest => some ("\x1b", rest)
  | ' ' :: rest => some (" ", rest)
  | '"' :: rest => some ("\"", rest)
  | '/' :: rest => some ("/", rest)
  | '\\' :: rest => some ("\\", rest)
  | 'x' :: rest => hexChar 2 rest
  | 'u' :: rest => hexChar 4 rest
  | 'U' :: rest => hexChar 8 rest
  | _ => none
where
  hexChar (n : Nat) (cs : List Char) : Option (String × List Char) :=
    let ds := cs.take n
    if ds.length == n && ds.all isHexDigit then
      some ((Char.ofNat (digitsValue 16 ds)).toString, cs.drop n)
    else none

/-- Reads a quoted scalar that starts a text, given its opening quote: its value and the text
    after the closing quote. -/
def readQuoted (q : Char) : Nat -> List Char -> String -> Except String (String × List Char)
  | 0, _, _ => .error "found unexpected end of stream"
  | _ + 1, [], _ => .error "found unexpected end of stream"
  | fuel + 1, c :: rest, acc =>
    if q == '\'' && c == '\'' then
      match rest with
      | '\'' :: more => readQuoted q fuel more (acc.push '\'')
      | _ => .ok (acc, rest)
    else if q == '"' && c == '"' then .ok (acc, rest)
    else if q == '"' && c == '\\' then
      match unescape rest with
      | some (s, more) => readQuoted q fuel more (acc ++ s)
      | none => .error "found unknown escape character"
    else readQuoted q fuel rest (acc.push c)

def skipBlanks (cs : List Char) : List Char := cs.dropWhile (fun c => c == ' ' || c == '\t' || c == '\n')

mutual

/-- Reads a value of a flow collection: the value and the text after it. -/
def flowValue : Nat -> List Char -> Except String (Value × List Char)
  | 0, _ => .error "too deep"
  | fuel + 1, cs =>
    match skipBlanks cs with
    | '[' :: rest => flowItems fuel rest []
    | '{' :: rest => flowEntries fuel rest []
    | '"' :: rest => do
      let (s, more) <- readQuoted '"' (rest.length + 1) rest ""
      pure (.str s, more)
    | '\'' :: rest => do
      let (s, more) <- readQuoted '\'' (rest.length + 1) rest ""
      pure (.str s, more)
    | rest =>
      let stop (c : Char) : Bool := c == ',' || c == ']' || c == '}'
      let word := rest.takeWhile (!stop ·)
      -- a plain scalar of a mapping ends before `: `
      let keyPart := (String.ofList word).splitOn ": "
      let text := (keyPart.headD "").trimAscii.toString
      let consumed := if keyPart.length > 1 then (keyPart.headD "").length else word.length
      let text := if text.endsWith ":" && consumed == word.length then
          String.ofList text.toList.dropLast else text
      let consumed := if (String.ofList word).trimAscii.toString.endsWith ":" && keyPart.length == 1
          then (String.ofList word).length - ((String.ofList word).toList.reverse.dropWhile
            (· == ' ')).length + (String.ofList ((String.ofList word).toList.reverse.dropWhile
            (· == ' ')).reverse).length - 1
          else consumed
      pure (resolvePlain text, rest.drop consumed)

/-- Reads the items of a flow sequence after its `[`. -/
def flowItems : Nat -> List Char -> List Value -> Except String (Value × List Char)
  | 0, _, _ => .error "too deep"
  | fuel + 1, cs, acc =>
    match skipBlanks cs with
    | ']' :: rest => .ok (.list acc.reverse, rest)
    | cs => do
      let (v, rest) <- flowValue fuel cs
      match skipBlanks rest with
      | ',' :: more => flowItems fuel more (v :: acc)
      | ']' :: more => .ok (.list (v :: acc).reverse, more)
      | _ => .error "while parsing a flow sequence expected ',' or ']'"

/-- Reads the entries of a flow mapping after its `{`. -/
def flowEntries : Nat -> List Char -> List (Value × Value) -> Except String (Value × List Char)
  | 0, _, _ => .error "too deep"
  | fuel + 1, cs, acc =>
    match skipBlanks cs with
    | '}' :: rest => .ok (.dict acc.reverse, rest)
    | cs => do
      let (k, rest) <- flowValue fuel cs
      let (v, rest) <- match skipBlanks rest with
        | ':' :: more =>
          match skipBlanks more with
          | ',' :: _ | '}' :: _ => pure (Value.none, skipBlanks more)
          | _ => flowValue fuel more
        | more => pure (Value.none, more)
      let acc := (k, v) :: acc.filter (fun (k2, _) => !k2.equal k)
      match skipBlanks rest with
      | ',' :: more => flowEntries fuel more acc
      | '}' :: more => .ok (.dict acc.reverse, more)
      | _ => .error "while parsing a flow mapping expected ',' or '\x7d'"

end

/-- The value of the text after a key or a dash when it is a whole scalar or flow collection. -/
def inlineValue (s : String) : Except String Value := do
  let cs := s.toList
  match cs with
  | '[' :: _ | '{' :: _ | '"' :: _ | '\'' :: _ =>
    let (v, rest) <- flowValue (cs.length + 2) cs
    if (skipBlanks rest).isEmpty then pure v
    else .error "expected <block end>, but found '<scalar>'"
  | _ => pure (resolvePlain s)

/-- Splits a line into a key and the text after its colon, when the line is an entry of a
    mapping. -/
def splitKey (content : String) : Option (String × String) :=
  let cs := content.toList
  match cs with
  | '"' :: rest | '\'' :: rest =>
    let q := cs.headD '"'
    match readQuoted q (rest.length + 1) rest "" with
    | .ok (_, after) =>
      let keyLen := cs.length - after.length
      match after.dropWhile (· == ' ') with
      | ':' :: more =>
        if more.isEmpty || more.head? == some ' ' then
          some (String.ofList (cs.take keyLen), (String.ofList more).trimAscii.toString)
        else none
      | _ => none
    | .error _ => none
  | '[' :: _ | '{' :: _ | '-' :: ' ' :: _ => none
  | _ =>
    let rec find : List Char -> Nat -> Option Nat
      | [], _ => none
      | ':' :: [], i => some i
      | ':' :: ' ' :: _, i => some i
      | ':' :: '\t' :: _, i => some i
      | _ :: rest, i => find rest (i + 1)
    match find cs 0 with
    | some i =>
      some ((String.ofList (cs.take i)).trimAscii.toString,
        (String.ofList (cs.drop (i + 1))).trimAscii.toString)
    | none => none

/-- The value of a key: a quoted key is text, a plain one is resolved. -/
def keyValue (raw : String) : Except String Value := inlineValue raw

/-- Whether a line is an item of a block sequence. -/
def isItem (content : String) : Bool := content == "-" || content.startsWith "- "

/-- The reader's position: the lines, which an item's first line may be rewritten in, and the
    index of the next line. -/
structure Reader where
  lines : Array Line
  pos : Nat
deriving Inhabited

/-- The index of the first line at or after `i` that is not blank. -/
def nextFilled (lines : Array Line) (i : Nat) : Nat :=
  let rec go : Nat -> Nat -> Nat
    | 0, j => j
    | fuel + 1, j => if j < lines.size && (lines.getD j default).isBlank then go fuel (j + 1) else j
  go (lines.size + 1) i

/-- The text of a block scalar whose indicator is given, on the lines after `start` that stand
    further in than `parent`; and the index after them. -/
def blockScalar (lines : Array Line) (start parent : Nat) (indicator : String) : String × Nat :=
  let rec collect : Nat -> Nat -> List Line -> List Line × Nat
    | 0, j, acc => (acc.reverse, j)
    | fuel + 1, j, acc =>
      if j ≥ lines.size then (acc.reverse, j)
      else
        let l := lines.getD j default
        if l.content.trimAscii.isEmpty || l.indent > parent then collect fuel (j + 1) (l :: acc)
        else (acc.reverse, j)
  let (body, next) := collect (lines.size + 1) start []
  let contentIndent := (body.find? (fun l => !l.content.trimAscii.isEmpty)).map (·.indent)
    |>.getD (parent + 1)
  let texts := body.map fun l =>
    if l.content.trimAscii.isEmpty then ""
    else String.ofList (List.replicate (l.indent - contentIndent) ' ') ++ l.content
  -- blank lines at the end are trailing breaks
  let kept := (texts.reverse.dropWhile (·.isEmpty)).reverse
  let trailing := texts.length - kept.length
  let folded := indicator.startsWith ">"
  let joined := if folded then
      (kept.foldl (fun (acc : String × Bool) t =>
        let (out, first) := acc
        if first then (t, false)
        else if t.isEmpty then (out ++ "\n", false)
        else if out.endsWith "\n" || t.startsWith " " then (out ++ t, false)
        else (out ++ " " ++ t, false)) ("", true)).1
    else "\n".intercalate kept
  let body := if kept.isEmpty then ""
    else if indicator.endsWith "-" then joined
    else if indicator.endsWith "+" then joined ++ String.ofList (List.replicate (trailing + 1) '\n')
    else joined ++ "\n"
  (body, next)

/-- The lines after `start` that go on a plain scalar: those that stand further in than
    `indent`, without their comments; and the index after them. -/
def continuation (lines : Array Line) (indent start : Nat) : List String × Nat :=
  let rec go : Nat -> Nat -> List String -> List String × Nat
    | 0, j, acc => (acc.reverse, j)
    | f + 1, j, acc =>
      let k := nextFilled lines j
      if k < lines.size && (lines.getD k default).indent > indent then
        go f (k + 1) ((dropComment (lines.getD k default).content).trimAscii.toString :: acc)
      else (acc.reverse, j)
  go lines.size start []

mutual

/-- Reads the node that starts at the next filled line if it stands at least `minIndent` in;
    a node that is not there is null. -/
def readNode : Nat -> Nat -> Reader -> Except String (Value × Reader)
  | 0, _, _ => .error "too deep"
  | fuel + 1, minIndent, rd =>
    let i := nextFilled rd.lines rd.pos
    if i ≥ rd.lines.size then .ok (.none, { rd with pos := i })
    else
      let l := rd.lines.getD i default
      let content := dropComment l.content
      if l.indent < minIndent then .ok (.none, { rd with pos := i })
      else if isItem content then readSequence fuel l.indent { rd with pos := i } []
      else if (splitKey content).isSome then readMapping fuel l.indent { rd with pos := i } []
      else
        -- a plain scalar may go on over the lines that stand further in
        let (rest, next) := continuation rd.lines l.indent (i + 1)
        let text := " ".intercalate (content.trimAscii.toString :: rest)
        match (if rest.isEmpty then inlineValue text else .ok (Value.str text)) with
        | .ok v => .ok (v, { rd with pos := next })
        | .error e => .error e
termination_by structural f => f

/-- Reads the value after a key or a dash at line `i`, which stands `indent` in. -/
def readValueAfter : Nat -> Nat -> Nat -> String -> Reader -> Except String (Value × Reader)
  | 0, _, _, _, _ => .error "too deep"
  | fuel + 1, indent, i, rest, rd =>
    if rest.isEmpty then
      let j := nextFilled rd.lines (i + 1)
      let nextLine := rd.lines.getD j default
      if j < rd.lines.size && nextLine.indent == indent && isItem (dropComment nextLine.content) then
        readSequence fuel indent { rd with pos := j } []
      else readNode fuel (indent + 1) { rd with pos := i + 1 }
    else if rest.startsWith "|" || rest.startsWith ">" then
      let (text, next) := blockScalar rd.lines (i + 1) indent rest
      .ok (.str text, { rd with pos := next })
    else do
      let v <- inlineValue rest
      pure (v, { rd with pos := i + 1 })
termination_by structural f => f

/-- Reads the entries of a block mapping whose keys stand `indent` in. -/
def readMapping : Nat -> Nat -> Reader -> List (Value × Value) -> Except String (Value × Reader)
  | 0, _, _, _ => .error "too deep"
  | fuel + 1, indent, rd, acc =>
    let i := nextFilled rd.lines rd.pos
    let l := rd.lines.getD i default
    if i ≥ rd.lines.size || l.indent != indent then .ok (.dict acc.reverse, { rd with pos := i })
    else
      let content := dropComment l.content
      match splitKey content with
      | none =>
        if isItem content then .ok (.dict acc.reverse, { rd with pos := i })
        else .error "could not find expected ':'"
      | some (rawKey, rest) => do
        let k <- keyValue rawKey
        let (v, rd) <- readValueAfter fuel indent i rest rd
        let acc := (k, v) :: acc.filter (fun (k2, _) => !k2.equal k)
        readMapping fuel indent rd acc
termination_by structural f => f

/-- Reads the items of a block sequence whose dashes stand `indent` in. -/
def readSequence : Nat -> Nat -> Reader -> List Value -> Except String (Value × Reader)
  | 0, _, _, _ => .error "too deep"
  | fuel + 1, indent, rd, acc =>
    let i := nextFilled rd.lines rd.pos
    let l := rd.lines.getD i default
    let content := dropComment l.content
    if i ≥ rd.lines.size || l.indent != indent || !isItem content then
      .ok (.list acc.reverse, { rd with pos := i })
    else do
      let after := (content.drop 1).toString
      let blanks := (after.toList.takeWhile (· == ' ')).length
      let rest := (after.drop blanks).toString
      let (v, rd) <- if rest.isEmpty then readValueAfter fuel indent i "" rd
        else if isItem rest || (splitKey rest).isSome then
          -- the item's first line holds a nested collection: read it as a line of its own
          let lines := rd.lines.set! i { indent := indent + 1 + blanks, content := rest }
          readNode fuel (indent + 1) { lines, pos := i }
        else readValueAfter fuel indent i rest rd
      readSequence fuel indent rd (v :: acc)
termination_by structural f => f

end

/-- Reads a YAML text: the value of its one document, null when it has none. -/
def load (text : String) : Except String Value := do
  let lines := (linesOf text).filter fun l => !(l.indent == 0 && (l.content == "---" ||
    l.content.startsWith "--- " || l.content == "..."))
  let fuel := 4 * lines.size + 16
  let (v, rd) <- readNode fuel 0 { lines, pos := 0 }
  if nextFilled rd.lines rd.pos < rd.lines.size then
    .error "expected '<document start>', but found '<block mapping start>'"
  pure v

end Blueprints.Yaml
