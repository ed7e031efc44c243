import Blueprints.Text.Pattern

namespace Blueprints.Template
open Text

/-- An expression of a template. -/
inductive Expr where
  | path (name : String) (fields : List String)
  | int (n : Int)
  | defined (e : Expr)
  | not (e : Expr)
  | and (a b : Expr)
  | or (a b : Expr)
  | eq (a b : Expr)
deriving Repr, Inhabited

/-- A part of a template. -/
inductive Node where
  | text (s : String)
  | out (e : Expr) (indent : Option Nat)
  | cond (test : Expr) (yes no : List Node)
  | each (name : String) (source : Expr) (body : List Node)
deriving Repr, Inhabited

/-- A piece of template text before blocks are matched: text, a hole, or a tag, with whether
    the blanks before and after it are taken away. -/
inductive Piece where
  | text (s : String)
  | hole (src : String) (trimBefore trimAfter : Bool)
  | tag (src : String) (trimBefore trimAfter : Bool)
deriving Repr, Inhabited

/-- The characters up to the first occurrence of `close`, and what follows it. -/
def upTo (close : List Char) : List Char -> Option (List Char × List Char)
  | [] => none
  | c :: rest =>
    if close.isPrefixOf (c :: rest) then some ([], (c :: rest).drop close.length)
    else (upTo close rest).map fun (inner, after) => (c :: inner, after)

/-- The source of a hole or tag with its minus signs taken off, and whether each was there. -/
def trims (inner : List Char) : String × Bool × Bool :=
  let before := inner.head? == some '-'
  let inner := if before then inner.drop 1 else inner
  let after := inner.getLast? == some '-'
  let inner := if after then inner.dropLast else inner
  ((String.ofList inner).trimAscii.toString, before, after)

/-- Splits template text into pieces; `acc` is the text read since the last hole or tag, last
    character first. Every step reads at least one character, so the length of the text is
    enough fuel. -/
def pieces (fuel : Nat) (acc : List Char) (cs : List Char) : Except String (List Piece) :=
  let text := if acc.isEmpty then [] else [Piece.text (String.ofList acc.reverse)]
  match fuel, cs with
  | _, [] => pure text
  | 0, _ => throw "template too long"
  | fuel + 1, '«' :: '%' :: rest => do
    let some (inner, after) := upTo ['%', '»'] rest | throw "a tag is not closed"
    let (src, b, a) := trims inner
    pure (text ++ Piece.tag src b a :: (<- pieces fuel [] after))
  | fuel + 1, '«' :: rest => do
    let some (inner, after) := upTo ['»'] rest | throw "a hole is not closed"
    let (src, b, a) := trims inner
    pure (text ++ Piece.hole src b a :: (<- pieces fuel [] after))
  | fuel + 1, c :: rest => pieces fuel (c :: acc) rest

/-- Text with the blanks of its end taken away. -/
def trimEnd (s : String) : String := String.ofList (s.toList.reverse.dropWhile isBlankChar).reverse

/-- Text with the blanks of its start taken away. -/
def trimStart (s : String) : String := String.ofList (s.toList.dropWhile isBlankChar)

/-- Whether a piece takes away the blanks after it. -/
def Piece.trimsAfter : Piece -> Bool
  | .hole _ _ a | .tag _ _ a => a
  | .text _ => false

/-- Whether a piece takes away the blanks before it. -/
def Piece.trimsBefore : Piece -> Bool
  | .hole _ b _ | .tag _ b _ => b
  | .text _ => false

/-- Takes away the blanks that the minus signs of the holes and tags around a text ask for;
    `previous` is whether the piece before takes away the blanks after it. -/
def applyTrims (previous : Bool) : List Piece -> List Piece
  | [] => []
  | .text s :: rest =>
    let s := if previous then trimStart s else s
    let s := match rest.head? with
      | some p => if p.trimsBefore then trimEnd s else s
      | none => s
    .text s :: applyTrims false rest
  | p :: rest => p :: applyTrims p.trimsAfter rest

def words (src : String) : List String :=
  ((src.splitOn " ").map (·.trimAscii.toString)).filter (!·.isEmpty)

/-- Reads a whole number or a name with fields. -/
def atom (w : String) : Except String Expr :=
  match w.toInt? with
  | some n => pure (.int n)
  | none =>
    match w.splitOn "." with
    | name :: fields =>
      if name.isEmpty || fields.any (·.isEmpty) then throw ("bad expression " ++ w)
      else pure (.path name fields)
    | [] => throw ("bad expression " ++ w)

/-- Reads a comparison or a test: an atom, then `== b`, `!= b`, `is defined` or
    `is not defined`. -/
def comparison : List String -> Except String (Expr × List String)
  | w :: "==" :: v :: rest => do pure (.eq (<- atom w) (<- atom v), rest)
  | w :: "!=" :: v :: rest => do pure (.not (.eq (<- atom w) (<- atom v)), rest)
  | w :: "is" :: "not" :: "defined" :: rest => do pure (.not (.defined (<- atom w)), rest)
  | w :: "is" :: "defined" :: rest => do pure (.defined (<- atom w), rest)
  | w :: rest => do pure (<- atom w, rest)
  | [] => throw "missing expression"

def negation : List String -> Except String (Expr × List String)
  | "not" :: "not" :: rest => do
    let (e, rest) <- negation rest
    pure (e, rest)
  | "not" :: rest => do
    let (e, rest) <- comparison rest
    pure (.not e, rest)
  | ws => comparison ws

/-- Reads comparisons joined by `and`; `first` is the one read already. -/
def conjunction (fuel : Nat) (first : Expr) (ws : List String) :
    Except String (Expr × List String) :=
  match fuel, ws with
  | fuel + 1, "and" :: rest => do
    let (e, rest) <- negation rest
    conjunction fuel (.and first e) rest
  | _, ws => pure (first, ws)

/-- Reads conjunctions joined by `or`; `first` is the one read already. -/
def disjunction (fuel : Nat) (first : Expr) (ws : List String) :
    Except String (Expr × List String) :=
  match fuel, ws with
  | fuel + 1, "or" :: rest => do
    let (e, rest) <- negation rest
    let (e, rest) <- conjunction rest.length e rest
    disjunction fuel (.or first e) rest
  | _, ws => pure (first, ws)

def expression (ws : List String) : Except String Expr := do
  let (e, rest) <- negation ws
  let (e, rest) <- conjunction rest.length e rest
  let (e, rest) <- disjunction rest.length e rest
  if rest.isEmpty then pure e else throw ("unexpected " ++ " ".intercalate rest)

/-- Reads a hole: an expression with an optional `| indent N`. -/
def hole (src : String) : Except String Node := do
  match src.splitOn "|" with
  | [e] => pure (.out (<- expression (words e)) none)
  | [e, f] =>
    match words f with
    | ["indent", n] =>
      match n.toNat? with
      | some k => pure (.out (<- expression (words e)) (some k))
      | none => throw ("bad indent " ++ n)
    | _ => throw ("unknown filter " ++ f)
  | _ => throw ("bad hole " ++ src)

/-- How a block of a template ends. -/
inductive Close where
  | finish
  | elif (test : Expr)
  | otherwise
  | endIf
  | endFor
deriving Repr, Inhabited

mutual
/-- Reads nodes up to the tag that closes the block; answers the nodes, the closing tag and
    the pieces after it. -/
def block (fuel : Nat) (ps : List Piece) : Except String (List Node × Close × List Piece) :=
  match fuel with
  | 0 => throw "template nests too deep"
  | fuel + 1 =>
    match ps with
    | [] => pure ([], .finish, [])
    | .text s :: rest => do
      let (nodes, close, after) <- block fuel rest
      pure (if s.isEmpty then nodes else .text s :: nodes, close, after)
    | .hole src _ _ :: rest => do
      let n <- hole src
      let (nodes, close, after) <- block fuel rest
      pure (n :: nodes, close, after)
    | .tag src _ _ :: rest =>
      match words src with
      | "if" :: test => do
        let (n, after) <- branches fuel (<- expression test) rest
        let (nodes, close, after) <- block fuel after
        pure (n :: nodes, close, after)
      | "elif" :: test => do pure ([], .elif (<- expression test), rest)
      | ["else"] => pure ([], .otherwise, rest)
      | ["endif"] => pure ([], .endIf, rest)
      | ["endfor"] => pure ([], .endFor, rest)
      | "for" :: name :: "in" :: source => do
        let (body, close, after) <- block fuel rest
        match close with
        | .endFor =>
          let n := Node.each name (<- expression source) body
          let (nodes, close, after) <- block fuel after
          pure (n :: nodes, close, after)
        | _ => throw "for without endfor"
      | _ => throw ("unknown tag " ++ src)

/-- Reads the branches of an `if` whose test is read: the block, then `elif`, `else` or
    `endif`. -/
def branches (fuel : Nat) (test : Expr) (ps : List Piece) : Except String (Node × List Piece) :=
  match fuel with
  | 0 => throw "template nests too deep"
  | fuel + 1 => do
    let (yes, close, after) <- block fuel ps
    match close with
    | .endIf => pure (.cond test yes [], after)
    | .otherwise =>
      let (no, close, after) <- block fuel after
      match close with
      | .endIf => pure (.cond test yes no, after)
      | _ => throw "else without endif"
    | .elif next =>
      let (n, after) <- branches fuel next after
      pure (.cond test yes [n], after)
    | _ => throw "if without endif"
end

def parse (src : String) : Except String (List Node) := do
  let ps := applyTrims false (<- pieces src.length [] src.toList)
  let (nodes, close, _) <- block (2 * ps.length + 2) ps
  match close with
  | .finish => pure nodes
  | _ => throw "a block is closed that was not opened"

end Blueprints.Template
