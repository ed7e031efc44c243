import Blueprints.Json.Basic
import Blueprints.Text.Hex

namespace Blueprints.Json

/-- Why a text is not a JSON document, with the character offset where reading stopped. -/
structure ParseError where
  reason : String
  offset : Nat
deriving Repr, Inhabited

/-- The text of a reading failure, with its line and column in `text`. -/
def ParseError.render (e : ParseError) (text : String) : String :=
  let before := text.toList.take e.offset
  let line := before.count '\n' + 1
  let lastNl := (before.reverse.findIdx? (· == '\n')).map (fun i => before.length - i - 1)
  let col := match lastNl with
    | some i => e.offset - i
    | none => e.offset + 1
  s!"{e.reason}: line {line} column {col} (char {e.offset})"

/-- Characters still to read, and how many were read before them. -/
structure Cursor where
  rest : List Char
  pos : Nat

namespace Cursor

/-- Skips blanks: space, tab, line feed and carriage return. -/
def skipWs : Cursor -> Cursor
  | ⟨c :: cs, p⟩ => if c == ' ' || c == '\t' || c == '\n' || c == '\r' then skipWs ⟨cs, p + 1⟩
    else ⟨c :: cs, p⟩
  | c => c

end Cursor

def hex4 : List Char -> Option Nat
  | [a, b, c, d] => do
    let x <- Text.hexDigitVal a; let y <- Text.hexDigitVal b; let z <- Text.hexDigitVal c
    let w <- Text.hexDigitVal d
    pure (((x * 16 + y) * 16 + z) * 16 + w)
  | _ => none

/-- Joins each escaped high surrogate with the low surrogate right after it into one code point;
    a literal character is never a surrogate, so adjacency in the decoded list is adjacency of
    the two escapes. -/
def joinSurrogates : List Nat -> List Char
  | hi :: lo :: rest =>
    if 0xD800 ≤ hi ∧ hi < 0xDC00 ∧ 0xDC00 ≤ lo ∧ lo < 0xE000 then
      Char.ofNat (0x10000 + (hi - 0xD800) * 0x400 + (lo - 0xDC00)) :: joinSurrogates rest
    else Char.ofNat hi :: joinSurrogates (lo :: rest)
  | [c] => [Char.ofNat c]
  | [] => []

/-- Reads the body of a string after its opening quote, up to and including the closing quote.
    `start` is the offset of the opening quote; `acc` holds the code points read so far, last
    first. -/
def readString (start : Nat) : List Char -> Nat -> List Nat -> Except ParseError (String × Cursor)
  | [], _, _ => .error ⟨"Unterminated string starting at", start⟩
  | '"' :: cs, p, acc => .ok (String.ofList (joinSurrogates acc.reverse), ⟨cs, p + 1⟩)
  | '\\' :: cs, p, acc =>
    match cs with
    | 'n' :: r => readString start r (p + 2) ('\n'.toNat :: acc)
    | 't' :: r => readString start r (p + 2) ('\t'.toNat :: acc)
    | 'r' :: r => readString start r (p + 2) ('\r'.toNat :: acc)
    | 'b' :: r => readString start r (p + 2) (8 :: acc)
    | 'f' :: r => readString start r (p + 2) (12 :: acc)
    | '/' :: r => readString start r (p + 2) ('/'.toNat :: acc)
    | '\\' :: r => readString start r (p + 2) ('\\'.toNat :: acc)
    | '"' :: r => readString start r (p + 2) ('"'.toNat :: acc)
    | 'u' :: r =>
      match hex4 (r.take 4) with
      | none => .error ⟨"Invalid \\uXXXX escape", p + 1⟩
      | some u => readString start (r.drop 4) (p + 6) (u :: acc)
    | _ => .error ⟨"Invalid \\escape", p⟩
  | c :: cs, p, acc =>
    if c.toNat < 0x20 then .error ⟨"Invalid control character at", p⟩
    else readString start cs (p + 1) (c.toNat :: acc)
termination_by cs => cs.length
decreasing_by all_goals simp_all <;> omega

/-- Reads a number at the head of `cs`, offset `pos`. -/
def readNumber (cs : List Char) (pos : Nat) : Except ParseError (Json × Cursor) :=
  let neg := cs.head? == some '-'
  let body := if neg then cs.tail else cs
  let intDigits := body.takeWhile Char.isDigit
  if intDigits.isEmpty then .error ⟨"Expecting value", pos⟩
  else
    let afterInt := body.drop intDigits.length
    let (fracDigits, afterFrac) :=
      match afterInt with
      | '.' :: r =>
        let ds := r.takeWhile Char.isDigit
        if ds.isEmpty then ([], afterInt) else (ds, r.drop ds.length)
      | _ => ([], afterInt)
    let hasFrac := !fracDigits.isEmpty
    let (expPart, afterExp) :=
      match afterFrac with
      | e :: r =>
        if e == 'e' || e == 'E' then
          let (sgn, r1) := match r with
            | '-' :: r1 => (-1, r1)
            | '+' :: r1 => (1, r1)
            | _ => (1, r)
          let ds := r1.takeWhile Char.isDigit
          if ds.isEmpty then (none, afterFrac)
          else (some (sgn * (String.ofList ds).toNat!), r1.drop ds.length)
        else (none, afterFrac)
      | [] => (none, afterFrac)
    let digitsVal := (String.ofList (intDigits ++ fracDigits)).toNat!
    let signed : Int := if neg then -(digitsVal : Int) else digitsVal
    let consumed := cs.length - afterExp.length
    let cur : Cursor := ⟨afterExp, pos + consumed⟩
    if !hasFrac && expPart.isNone then .ok (.int signed, cur)
    else
      let e : Int := (expPart.getD 0) - fracDigits.length
      .ok (.float ⟨signed, e⟩, cur)

/-- Expects the literal `word` at the head of the cursor. -/
def literal (word : String) (v : Json) (c : Cursor) : Except ParseError (Json × Cursor) :=
  let w := word.toList
  if c.rest.take w.length == w then .ok (v, ⟨c.rest.drop w.length, c.pos + w.length⟩)
  else .error ⟨"Expecting value", c.pos⟩

mutual
/-- Reads one value after optional blanks. `fuel` bounds the nesting depth. -/
def readValue : Nat -> Cursor -> Except ParseError (Json × Cursor)
  | 0, c => .error ⟨"Expecting value", c.pos⟩
  | fuel + 1, c0 =>
    let c := c0.skipWs
    match c.rest with
    | '{' :: r => readObject fuel ⟨r, c.pos + 1⟩
    | '[' :: r => readArray fuel ⟨r, c.pos + 1⟩
    | '"' :: r => do
      let (s, c') <- readString c.pos r (c.pos + 1) []
      pure (.str s, c')
    | 'n' :: _ => literal "null" .null c
    | 't' :: _ => literal "true" (.bool true) c
    | 'f' :: _ => literal "false" (.bool false) c
    | ch :: _ => if ch == '-' || ch.isDigit then readNumber c.rest c.pos
      else .error ⟨"Expecting value", c.pos⟩
    | [] => .error ⟨"Expecting value", c.pos⟩

/-- Reads the items of an array after its `[`. -/
def readArray : Nat -> Cursor -> Except ParseError (Json × Cursor)
  | 0, c => .error ⟨"Expecting value", c.pos⟩
  | fuel + 1, c0 =>
    let c := c0.skipWs
    match c.rest with
    | ']' :: r => .ok (.arr [], ⟨r, c.pos + 1⟩)
    | _ => do
      let (items, c') <- readItems fuel c []
      pure (.arr items, c')

/-- Reads array items separated by commas, up to the closing bracket. -/
def readItems : Nat -> Cursor -> List Json -> Except ParseError (List Json × Cursor)
  | 0, c, _ => .error ⟨"Expecting value", c.pos⟩
  | fuel + 1, c, acc => do
    let (v, c1) <- readValue fuel c
    let c2 := c1.skipWs
    match c2.rest with
    | ',' :: r => readItems fuel ⟨r, c2.pos + 1⟩ (v :: acc)
    | ']' :: r => pure ((v :: acc).reverse, ⟨r, c2.pos + 1⟩)
    | _ => .error ⟨"Expecting ',' delimiter", c2.pos⟩

/-- Reads the fields of an object after its `{`. -/
def readObject : Nat -> Cursor -> Except ParseError (Json × Cursor)
  | 0, c => .error ⟨"Expecting value", c.pos⟩
  | fuel + 1, c0 =>
    let c := c0.skipWs
    match c.rest with
    | '}' :: r => .ok (.obj [], ⟨r, c.pos + 1⟩)
    | _ => do
      let (fields, c') <- readFields fuel c []
      pure (.obj fields, c')

/-- Reads `"name": value` pairs separated by commas, up to the closing brace. -/
def readFields : Nat -> Cursor -> List (String × Json) ->
    Except ParseError (List (String × Json) × Cursor)
  | 0, c, _ => .error ⟨"Expecting value", c.pos⟩
  | fuel + 1, c0, acc => do
    let c := c0.skipWs
    match c.rest with
    | '"' :: r =>
      let (k, c1) <- readString c.pos r (c.pos + 1) []
      let c2 := c1.skipWs
      match c2.rest with
      | ':' :: r2 =>
        let (v, c3) <- readValue fuel ⟨r2, c2.pos + 1⟩
        let c4 := c3.skipWs
        match c4.rest with
        | ',' :: r4 =>
          let c5 := Cursor.skipWs ⟨r4, c4.pos + 1⟩
          match c5.rest with
          | '"' :: _ => readFields fuel c5 ((k, v) :: acc)
          | _ => .error ⟨"Expecting property name enclosed in double quotes", c5.pos⟩
        | '}' :: r4 => pure (((k, v) :: acc).reverse, ⟨r4, c4.pos + 1⟩)
        | _ => .error ⟨"Expecting ',' delimiter", c4.pos⟩
      | _ => .error ⟨"Expecting ':' delimiter", c2.pos⟩
    | _ => .error ⟨"Expecting property name enclosed in double quotes", c.pos⟩
end

/-- Reads a whole JSON document; blanks may surround it and nothing else may follow. -/
def parse (text : String) : Except ParseError Json := do
  let cs := text.toList
  let (v, c) <- readValue (2 * cs.length + 2) ⟨cs, 0⟩
  let c' := c.skipWs
  if c'.rest.isEmpty then pure v else .error ⟨"Extra data", c'.pos⟩

end Blueprints.Json
