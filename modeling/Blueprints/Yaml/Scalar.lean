import Blueprints.Json.Render

namespace Blueprints.Yaml

/-- A matcher of a text's prefixes: every rest that can follow a match at the start. -/
abbrev Matcher := List Char -> List (List Char)

namespace Matcher

def one (p : Char -> Bool) : Matcher
  | c :: rest => if p c then [rest] else []
  | [] => []

def andThen (a b : Matcher) : Matcher := fun cs => (a cs).flatMap b

def orElse (a b : Matcher) : Matcher := fun cs => a cs ++ b cs

def done : Matcher := fun cs => [cs]

def optional (a : Matcher) : Matcher := orElse a done

/-- Any number of characters that satisfy `p`, each count a match. -/
def many (p : Char -> Bool) : Matcher := fun cs =>
  (List.range ((cs.takeWhile p).length + 1)).map cs.drop

/-- At least one character that satisfies `p`. -/
def many1 (p : Char -> Bool) : Matcher := andThen (one p) (many p)

def word (s : String) : Matcher := s.toList.foldr (fun c m => andThen (one (· == c)) m) done

def chain (ms : List Matcher) : Matcher := ms.foldr andThen done

def anyOf (ms : List Matcher) : Matcher := ms.foldr orElse (fun _ => [])

/-- Whether the matcher matches the whole text. -/
def whole (m : Matcher) (s : String) : Bool := (m s.toList).any (·.isEmpty)

end Matcher

open Matcher

def isDecimal (c : Char) : Bool := '0' ≤ c && c ≤ '9'

def isDecimalOrMark (c : Char) : Bool := isDecimal c || c == '_'

def sign : Matcher := optional (one fun c => c == '-' || c == '+')

/-- An exponent whose sign may be left out. -/
def exponent : Matcher :=
  andThen (one fun c => c == 'e' || c == 'E') (andThen sign (many1 isDecimal))

/-- Whether plain text reads back as a truth value. -/
def readsAsBool (s : String) : Bool :=
  ["true", "True", "TRUE", "false", "False", "FALSE"].contains s

/-- Whether plain text reads back as the absent value. -/
def readsAsNull (s : String) : Bool := ["", "~", "null", "Null", "NULL"].contains s

/-- Whether plain text reads back as an integer: binary, octal, decimal or hexadecimal digits,
    with a sign and underscores between them. -/
def readsAsInt (s : String) : Bool :=
  whole (anyOf [andThen sign (andThen (word "0b") (many1 fun c => c == '0' || c == '1' || c == '_')),
    andThen sign (andThen (word "0") (andThen (optional (word "o"))
      (many1 fun c => ('0' ≤ c && c ≤ '7') || c == '_'))),
    andThen sign (many1 isDecimalOrMark),
    andThen sign (andThen (word "0x") (many1 fun c => c.isDigit || ('a' ≤ c && c ≤ 'f') ||
      ('A' ≤ c && c ≤ 'F') || c == '_'))]) s

/-- Whether plain text reads back as a number with a point or an exponent, or as an infinity or
    not-a-number. -/
def readsAsFloat (s : String) : Bool :=
  let digitsFirst := andThen sign (andThen (one isDecimal) (many isDecimalOrMark))
  whole (anyOf [andThen digitsFirst (andThen (word ".") (andThen (many isDecimalOrMark)
      (optional exponent))),
    andThen digitsFirst exponent,
    andThen sign (andThen (word ".") (andThen (many1 isDecimalOrMark)
      (optional (andThen (one fun c => c == 'e' || c == 'E')
        (andThen (one fun c => c == '-' || c == '+') (many1 isDecimal)))))),
    andThen sign (anyOf [word ".inf", word ".Inf", word ".INF"]),
    anyOf [word ".nan", word ".NaN", word ".NAN"]]) s

/-- Whether plain text reads back as a date, or a date and time. -/
def readsAsTimestamp (s : String) : Bool :=
  let d := one isDecimal
  let d12 := andThen d (optional d)
  let blank := fun c => c == ' ' || c == '\t'
  let zone := chain [many blank, orElse (word "Z")
    (chain [one (fun c => c == '-' || c == '+'), d12, optional (chain [word ":", d, d])])]
  whole (orElse (chain [d, d, d, d, word "-", d, d, word "-", d, d])
    (chain [d, d, d, d, word "-", d12, word "-", d12,
      orElse (one fun c => c == 'T' || c == 't') (many1 blank),
      d12, word ":", d, d, word ":", d, d, optional (andThen (word ".") (many isDecimal)),
      optional zone])) s

/-- Whether plain text reads back as text. Text that starts with none of the characters that
    other forms start with is always text. -/
def readsAsText (s : String) : Bool :=
  !(readsAsBool s || readsAsNull s || readsAsInt s || readsAsFloat s || readsAsTimestamp s ||
    ["<<", "=", "!", "&", "*"].contains s)

/-- A line break: a line feed, a next-line character, or a line or paragraph separator. -/
def isLineBreak (c : Char) : Bool :=
  c == '\n' || c.toNat == 0x85 || c.toNat == 0x2028 || c.toNat == 0x2029

/-- A blank, a line break, or the end of the text. -/
def isBlankOrBreak (c : Char) : Bool :=
  c.toNat == 0 || c == ' ' || c == '\t' || c == '\r' || isLineBreak c

/-- A character written as it is when the writer may use characters beyond ASCII. -/
def isWideText (c : Char) : Bool :=
  let n := c.toNat
  (n == 0x85 || (0xA0 ≤ n && n ≤ 0xD7FF) || (0xE000 ≤ n && n ≤ 0xFFFD) ||
    (0x10000 ≤ n && n ≤ 0x10FFFF)) && n != 0xFEFF

/-- What the characters of a scalar allow. -/
structure Analysis where
  empty : Bool
  multiline : Bool
  allowPlain : Bool
  allowSingle : Bool
  allowBlock : Bool
deriving Repr, Inhabited

/-- What is seen while reading a scalar's characters, in order. -/
structure Scan where
  indicator : Bool := false
  breaks : Bool := false
  special : Bool := false
  leadingSpace : Bool := false
  leadingBreak : Bool := false
  trailingSpace : Bool := false
  trailingBreak : Bool := false
  breakSpace : Bool := false
  spaceBreak : Bool := false
  previousSpace : Bool := false
  previousBreak : Bool := false

/-- Reads the characters from position `index` on; `before` is the character before, if any. -/
def Scan.go (wide : Bool) (last : Nat) : Nat -> Option Char -> List Char -> Scan -> Scan
  | _, _, [], s => s
  | index, before, c :: rest, s =>
    let precededByBlank := match before with
      | none => true
      | some b => isBlankOrBreak b
    let followedByBlank := match rest with
      | [] => true
      | n :: _ => isBlankOrBreak n
    let indicator := if index == 0 then
        "#,[]\x7b\x7d&*!|>'\"%@`".toList.contains c || ((c == '?' || c == ':') && followedByBlank) ||
          (c == '-' && followedByBlank)
      else (c == ':' && followedByBlank) || (c == '#' && precededByBlank)
    let printable := c == '\n' || ('\x20' ≤ c && c ≤ '\x7E')
    let special := !printable && !(isWideText c && wide)
    let s := { s with
      indicator := s.indicator || indicator
      breaks := s.breaks || isLineBreak c
      special := s.special || special }
    let s := if c == ' ' then
        { s with
          leadingSpace := s.leadingSpace || index == 0
          trailingSpace := s.trailingSpace || index == last
          breakSpace := s.breakSpace || s.previousBreak
          previousSpace := true
          previousBreak := false }
      else if isLineBreak c then
        { s with
          leadingBreak := s.leadingBreak || index == 0
          trailingBreak := s.trailingBreak || index == last
          spaceBreak := s.spaceBreak || s.previousSpace
          previousSpace := false
          previousBreak := true }
      else { s with previousSpace := false, previousBreak := false }
    Scan.go wide last (index + 1) (some c) rest s

/-- What the characters of a scalar allow; `wide` says whether characters beyond ASCII may be
    written as they are. -/
def Analysis.of (wide : Bool) (text : String) : Analysis :=
  if text.isEmpty then
    { empty := true, multiline := false, allowPlain := true, allowSingle := true,
      allowBlock := false }
  else
    let cs := text.toList
    let s := Scan.go wide (cs.length - 1) 0 none cs {}
    let documentMark := text.startsWith "---" || text.startsWith "..."
    let edges := s.leadingSpace || s.leadingBreak || s.trailingSpace || s.trailingBreak
    let quotesOnly := s.spaceBreak || s.special
    { empty := false, multiline := s.breaks,
      allowPlain := !(edges || s.breakSpace || quotesOnly || s.breaks || s.indicator ||
        documentMark),
      allowSingle := !(s.breakSpace || quotesOnly),
      allowBlock := !(s.trailingSpace || quotesOnly) }

/-- Whether a character ends a line for the language's `splitlines`. -/
def endsLine (c : Char) : Bool :=
  c == '\n' || c == '\r' || (0x0b ≤ c.toNat && c.toNat ≤ 0x0c) ||
    (0x1c ≤ c.toNat && c.toNat ≤ 0x1e) || c.toNat == 0x85 || c.toNat == 0x2028 ||
    c.toNat == 0x2029

/-- How many lines text splits into, as the language's `splitlines` counts them: every line
    break ends a line, a carriage return and line feed together count once, and no line
    follows a final break. -/
def lineCount : List Char -> Nat
  | [] => 0
  | '\r' :: '\n' :: rest => 1 + lineCount rest
  | c :: rest =>
    if endsLine c then 1 + lineCount rest
    else if rest.any endsLine then lineCount rest else 1

end Blueprints.Yaml
