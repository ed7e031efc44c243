
namespace Blueprints.Text

/-- One item of a shell-style pattern. -/
inductive GlobItem where
  | anyRun
  | anyChar
  | oneOf (negated : Bool) (ranges : List (Char × Char))
  | char (c : Char)
deriving Repr, BEq

namespace GlobItem

/-- The ranges that the text of a set stands for: `a-z` is a range, any other character stands
    for itself, and a `-` first or last is an ordinary character. -/
def setRanges : List Char -> List (Char × Char)
  | a :: '-' :: b :: rest => (a, b) :: setRanges rest
  | a :: rest => (a, a) :: setRanges rest
  | [] => []

/-- Splits the text after a `[` into the set's text and what follows its closing `]`; `none`
    when nothing closes it. The set's text keeps a leading `!`. -/
def closeSet (cs : List Char) : Option (List Char × List Char) :=
  let (bang, cs) := match cs with
    | '!' :: r => (['!'], r)
    | r => ([], r)
  let (bracket, cs) := match cs with
    | ']' :: r => ([']'], r)
    | r => ([], r)
  let body := cs.takeWhile (· != ']')
  match cs.dropWhile (· != ']') with
  | [] => none
  | _ :: rest => some (bang ++ bracket ++ body, rest)

/-- The item that the text of a set stands for. -/
def ofSet : List Char -> GlobItem
  | '!' :: body => .oneOf true (setRanges body)
  | body => .oneOf false (setRanges body)

/-- Reads the items of a pattern; `fuel` bounds the characters left. -/
def parseItems : Nat -> List Char -> List GlobItem
  | 0, _ => []
  | _, [] => []
  | fuel + 1, '*' :: rest => .anyRun :: parseItems fuel rest
  | fuel + 1, '?' :: rest => .anyChar :: parseItems fuel rest
  | fuel + 1, '[' :: rest =>
    match closeSet rest with
    | some (body, after) => ofSet body :: parseItems fuel after
    | none => .char '[' :: parseItems fuel rest
  | fuel + 1, c :: rest => .char c :: parseItems fuel rest

def parse (pattern : String) : List GlobItem :=
  parseItems (pattern.length + 1) pattern.toList

/-- Whether a character lies in one of the ranges. -/
def inRanges (ranges : List (Char × Char)) (c : Char) : Bool :=
  ranges.any fun (lo, hi) => lo ≤ c && c ≤ hi

/-- The suffixes of a text, longest first, the empty one last. -/
def suffixes : List Char -> List (List Char)
  | [] => [[]]
  | c :: rest => (c :: rest) :: suffixes rest

/-- Whether the items match the whole of a text. -/
def matchAll : List GlobItem -> List Char -> Bool
  | [], s => s.isEmpty
  | .anyRun :: ps, s => (suffixes s).any (matchAll ps)
  | .anyChar :: ps, _ :: s => matchAll ps s
  | .oneOf negated ranges :: ps, c :: s => inRanges ranges c != negated && matchAll ps s
  | .char d :: ps, c :: s => c == d && matchAll ps s
  | _ :: _, [] => false

end GlobItem

/-- Whether a shell-style pattern matches the whole of a text. -/
def globMatches (pattern text : String) : Bool :=
  GlobItem.matchAll (GlobItem.parse pattern) text.toList

/-- Whether a pattern matches a path segment by segment. -/
def globMatchesPath (pattern path : String) : Bool :=
  let ps := pattern.splitOn "/"
  let xs := path.splitOn "/"
  ps.length == xs.length && (ps.zip xs).all fun (p, x) => globMatches p x

end Blueprints.Text
