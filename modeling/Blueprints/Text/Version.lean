
namespace Blueprints.Text

/-- A part of a version: a number or a run of other characters. -/
inductive VersionPart where
  | num (n : Nat)
  | word (s : String)
deriving Repr, BEq, Inhabited

def versionParts (v : String) : List VersionPart :=
  let rec go : List Char -> List Char -> Bool -> List VersionPart
    | [], acc, isNum => flush acc isNum
    | c :: cs, acc, isNum =>
      if c == '.' then flush acc isNum ++ go cs [] false
      else if c.isDigit then
        if isNum || acc.isEmpty then go cs (acc ++ [c]) true
        else flush acc isNum ++ go cs [c] true
      else if isNum && !acc.isEmpty then flush acc isNum ++ go cs [c] false
      else go cs (acc ++ [c]) false
  go v.toList [] false
where
  flush (acc : List Char) (isNum : Bool) : List VersionPart :=
    if acc.isEmpty then []
    else if isNum then [.num ((String.ofList acc).toNat?.getD 0)]
    else [.word (String.ofList acc)]

/-- Whether one part is smaller than another: numbers by size, words by their characters, and a
    number before a word. -/
def VersionPart.lt : VersionPart -> VersionPart -> Bool
  | .num a, .num b => a < b
  | .word a, .word b => decide (a < b)
  | .num _, .word _ => true
  | .word _, .num _ => false

/-- Whether one list of parts is smaller than another, part by part. -/
def partsLt : List VersionPart -> List VersionPart -> Bool
  | [], [] => false
  | [], _ :: _ => true
  | _ :: _, [] => false
  | a :: as, b :: bs => if a == b then partsLt as bs else a.lt b

/-- Whether version `a` is older than version `b`. -/
def versionLt (a b : String) : Bool := partsLt (versionParts a) (versionParts b)

end Blueprints.Text
