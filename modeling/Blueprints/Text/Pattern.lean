import Blueprints.Text.IdentifierChar

namespace Blueprints.Text

/-- A class of characters named by a backslash escape. -/
inductive CharClass where
  | digit | word | space
deriving Repr, BEq

/-- An item of a character set. -/
inductive SetItem where
  | range (lo hi : Char)
  | cls (c : CharClass) (negated : Bool)
deriving Repr

/-- A parsed pattern. -/
inductive Pattern where
  | empty
  | char (c : Char)
  | anyChar
  | set (negated : Bool) (items : List SetItem)
  | lineStart
  | lineEnd
  | textStart
  | textEnd
  | boundary (negated : Bool)
  | seq (a b : Pattern)
  | alt (a b : Pattern)
  | loop (p : Pattern) (min : Nat) (max : Option Nat) (greedy : Bool)
deriving Repr, Inhabited

/-- Whether a character is a word character: a letter, digit or underscore. -/
def isPatternWordChar (c : Char) : Bool :=
  c.isAlphanum || c == '_' || (c.toNat > 127 && isIdentContinue c)

/-- Whether a character is a blank: space, tab, line feed, carriage return, form feed,
    vertical tab, or a separator beyond ASCII. -/
def isBlankChar (c : Char) : Bool :=
  c == ' ' || (c.toNat ≥ 9 && c.toNat ≤ 13) || (c.toNat ≥ 0x1c && c.toNat ≤ 0x1f) ||
    c.toNat == 0x85 || c.toNat == 0xa0 || c.toNat == 0x1680 ||
    (c.toNat ≥ 0x2000 && c.toNat ≤ 0x200a) || c.toNat == 0x2028 || c.toNat == 0x2029 ||
    c.toNat == 0x202f || c.toNat == 0x205f || c.toNat == 0x3000

/-- The words of a text: its runs of characters between blanks. -/
def splitBlanks (s : String) : List String :=
  let rec go : List Char -> List Char -> List String
    | [], acc => if acc.isEmpty then [] else [String.ofList acc.reverse]
    | c :: rest, acc =>
      if isBlankChar c then
        (if acc.isEmpty then [] else [String.ofList acc.reverse]) ++ go rest []
      else go rest (c :: acc)
  go s.toList []

def CharClass.contains : CharClass -> Char -> Bool
  | .digit, c => c.isDigit
  | .word, c => isPatternWordChar c
  | .space, c => isBlankChar c

def SetItem.contains : SetItem -> Char -> Bool
  | .range lo hi, c => lo ≤ c && c ≤ hi
  | .cls k neg, c => k.contains c != neg

/-- The class that a backslash escape letter names, with its negation. -/
def classOfEscape? (c : Char) : Option (CharClass × Bool) :=
  match c with
  | 'd' => some (.digit, false)
  | 'D' => some (.digit, true)
  | 'w' => some (.word, false)
  | 'W' => some (.word, true)
  | 's' => some (.space, false)
  | 'S' => some (.space, true)
  | _ => none

/-- The character that a backslash escape letter stands for. -/
def escapedChar (c : Char) : Char :=
  match c with
  | 'n' => '\n'
  | 't' => '\t'
  | 'r' => '\r'
  | 'f' => '\x0c'
  | 'v' => '\x0b'
  | 'a' => '\x07'
  | _ => c

/-- Reads the items of a character set up to its closing bracket. A `]` right after the
    opening bracket is literal, and so is a `-` that cannot form a range. -/
def parseSet (first : Bool) : List Char -> List SetItem -> Option (List SetItem × List Char)
  | [], _ => none
  | ']' :: rest, acc =>
    if first then parseSet false rest (.range ']' ']' :: acc) else some (acc.reverse, rest)
  | '\\' :: e :: rest, acc =>
    match classOfEscape? e with
    | some (k, neg) => parseSet false rest (.cls k neg :: acc)
    | none => parseSet false rest (.range (escapedChar e) (escapedChar e) :: acc)
  | c :: '-' :: h :: rest, acc =>
    if h == ']' then parseSet false ('-' :: h :: rest) (.range c c :: acc)
    else if h == '\\' then
      match rest with
      | e :: rest' => parseSet false rest' (.range c (escapedChar e) :: acc)
      | [] => none
    else parseSet false rest (.range c h :: acc)
  | c :: rest, acc => parseSet false rest (.range c c :: acc)
termination_by cs => cs.length

/-- Reads the digits at the front of a list, with their value when there is at least one. -/
def readDigits : List Char -> Nat -> Bool -> Option Nat × List Char
  | c :: rest, acc, seen =>
    if c.isDigit then readDigits rest (acc * 10 + (c.toNat - '0'.toNat)) true
    else (if seen then some acc else none, c :: rest)
  | [], acc, seen => (if seen then some acc else none, [])

/-- Reads a counted repetition `{m}`, `{m,}`, `{,n}` or `{m,n}` after its opening brace.
    Text that is not of this form leaves the brace literal. -/
def readCount (cs : List Char) : Option ((Nat × Option Nat) × List Char) :=
  let (lo, rest) := readDigits cs 0 false
  match rest with
  | '}' :: rest' => lo.map fun m => ((m, some m), rest')
  | ',' :: rest' =>
    let (hi, rest'') := readDigits rest' 0 false
    match rest'' with
    | '}' :: tail => some ((lo.getD 0, hi), tail)
    | _ => none
  | _ => none

/-- Applies any quantifiers that follow an atom. -/
def applyQuantifiers (atom : Pattern) : List Char -> Pattern × List Char
  | '*' :: rest => lazyOr (atom, 0, none) rest
  | '+' :: rest => lazyOr (atom, 1, none) rest
  | '?' :: rest => lazyOr (atom, 0, some 1) rest
  | '{' :: rest =>
    match readCount rest with
    | some ((lo, hi), rest') => lazyOr (atom, lo, hi) rest'
    | none => (atom, '{' :: rest)
  | rest => (atom, rest)
where
  lazyOr : Pattern × Nat × Option Nat -> List Char -> Pattern × List Char
    | (p, lo, hi), '?' :: rest => (.loop p lo hi false, rest)
    | (p, lo, hi), rest => (.loop p lo hi true, rest)

/-- Requires the closing parenthesis of a group. -/
def closeGroup : Option (Pattern × List Char) -> Option (Pattern × List Char)
  | some (p, ')' :: rest) => some (p, rest)
  | _ => none

mutual
/-- Reads alternatives separated by `|` up to a closing parenthesis or the end. -/
def parseAlt (fuel : Nat) (cs : List Char) : Option (Pattern × List Char) :=
  match fuel with
  | 0 => none
  | fuel + 1 =>
    match parseSeq fuel cs Pattern.empty with
    | none => none
    | some (p, '|' :: rest) =>
      match parseAlt fuel rest with
      | some (q, rest') => some (.alt p q, rest')
      | none => none
    | some r => some r

/-- Reads a sequence of quantified atoms up to `|`, `)` or the end. -/
def parseSeq (fuel : Nat) (cs : List Char) (acc : Pattern) : Option (Pattern × List Char) :=
  match fuel with
  | 0 => none
  | fuel + 1 =>
    match cs with
    | [] => some (acc, [])
    | '|' :: rest => some (acc, '|' :: rest)
    | ')' :: rest => some (acc, ')' :: rest)
    | _ =>
      match parseAtom fuel cs with
      | none => none
      | some (atom, rest) =>
        let (q, rest') := applyQuantifiers atom rest
        parseSeq fuel rest' (match acc with
          | .empty => q
          | _ => .seq acc q)

/-- Reads one atom: a literal, class, set, anchor or group. -/
def parseAtom (fuel : Nat) (cs : List Char) : Option (Pattern × List Char) :=
  match fuel with
  | 0 => none
  | fuel + 1 =>
    match cs with
    | '(' :: '?' :: ':' :: rest => closeGroup (parseAlt fuel rest)
    | '(' :: rest => closeGroup (parseAlt fuel rest)
    | '[' :: '^' :: rest => (parseSet true rest []).map fun (items, r) => (.set true items, r)
    | '[' :: rest => (parseSet true rest []).map fun (items, r) => (.set false items, r)
    | '.' :: rest => some (.anyChar, rest)
    | '^' :: rest => some (.lineStart, rest)
    | '$' :: rest => some (.lineEnd, rest)
    | '\\' :: e :: rest =>
      match classOfEscape? e with
      | some (k, neg) => some (.set false [.cls k neg], rest)
      | none =>
        match e with
        | 'A' => some (.textStart, rest)
        | 'Z' => some (.textEnd, rest)
        | 'b' => some (.boundary false, rest)
        | 'B' => some (.boundary true, rest)
        | _ => some (.char (escapedChar e), rest)
    | '*' :: _ => none
    | '+' :: _ => none
    | '?' :: _ => none
    | c :: rest => some (.char c, rest)
    | [] => none
end

/-- Reads a whole pattern; `none` when it is not well formed. -/
def Pattern.parse (text : String) : Option Pattern :=
  let cs := text.toList
  match parseAlt (4 * cs.length + 4) cs with
  | some (p, []) => some p
  | _ => none

/-- Whether the characters at `i - 1` and `i` differ in being word characters. -/
def atBoundary (s : Array Char) (i : Nat) : Bool :=
  let before := if i == 0 then false else isPatternWordChar (s.getD (i - 1) ' ')
  let after := if i < s.size then isPatternWordChar (s.getD i ' ') else false
  before != after

/-- Matches a pattern at position `i` of `s`, handing each end position to the continuation
    `k` until it accepts. Each step spends one unit of `fuel`. -/
def matchAt (s : Array Char) : Nat -> Pattern -> Nat -> (Nat -> Bool) -> Bool
  | 0, _, _, _ => false
  | _ + 1, .empty, i, k => k i
  | _ + 1, .char c, i, k => i < s.size && s.getD i ' ' == c && k (i + 1)
  | _ + 1, .anyChar, i, k => i < s.size && s.getD i ' ' != '\n' && k (i + 1)
  | _ + 1, .set neg items, i, k =>
    i < s.size && (items.any (·.contains (s.getD i ' ')) != neg) && k (i + 1)
  | _ + 1, .lineStart, i, k => i == 0 && k i
  | _ + 1, .textStart, i, k => i == 0 && k i
  | _ + 1, .lineEnd, i, k =>
    (i == s.size || (i + 1 == s.size && s.getD i ' ' == '\n')) && k i
  | _ + 1, .textEnd, i, k => i == s.size && k i
  | _ + 1, .boundary neg, i, k => (atBoundary s i != neg) && k i
  | fuel + 1, .seq a b, i, k => matchAt s fuel a i (fun j => matchAt s fuel b j k)
  | fuel + 1, .alt a b, i, k => matchAt s fuel a i k || matchAt s fuel b i k
  | fuel + 1, .loop p lo hi greedy, i, k =>
    let more : Bool := hi != some 0 &&
      matchAt s fuel p i (fun j =>
        if j == i then lo > 0 && matchAt s fuel (.loop p (lo - 1) (hi.map (· - 1)) greedy) j k
        else matchAt s fuel (.loop p (lo - 1) (hi.map (· - 1)) greedy) j k)
    let stop : Bool := lo == 0 && k i
    if greedy then more || stop else stop || more

/-- The step budget for matching a text of `n` characters. -/
def matchBudget (n : Nat) : Nat := 64 * (n + 8) * (n + 8)

/-- Whether the pattern matches at the start of the text, as a prefix. -/
def Pattern.matchesPrefix (p : Pattern) (text : String) : Bool :=
  let s := text.toList.toArray
  matchAt s (matchBudget s.size) p 0 (fun _ => true)

end Blueprints.Text
