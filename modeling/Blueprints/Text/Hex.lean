
namespace Blueprints.Text

def hexDigitVal (c : Char) : Option Nat :=
  if '0' ≤ c ∧ c ≤ '9' then some (c.toNat - '0'.toNat)
  else if 'a' ≤ c ∧ c ≤ 'f' then some (c.toNat - 'a'.toNat + 10)
  else if 'A' ≤ c ∧ c ≤ 'F' then some (c.toNat - 'A'.toNat + 10)
  else none

/-- Whether a character is a blank that may stand between pairs of digits. -/
def isHexBlank (c : Char) : Bool :=
  c == ' ' || c == '\t' || c == '\n' || c == '\r' || c.toNat == 11 || c.toNat == 12

/-- Reads pairs of digits from `cs`, which starts at position `pos`; a failure gives the position
    of the offending character, or the length of the text when a pair is cut short. -/
def readHexPairs : List Char -> Nat -> Except Nat (List UInt8)
  | [], _ => .ok []
  | c :: rest, pos =>
    if isHexBlank c then readHexPairs rest (pos + 1)
    else match hexDigitVal c with
      | none => .error pos
      | some hi => match rest with
        | [] => .error (pos + 1)
        | d :: rest' => match hexDigitVal d with
          | none => .error (pos + 1)
          | some lo => (readHexPairs rest' (pos + 2)).map (UInt8.ofNat (16 * hi + lo) :: ·)

/-- The bytes written by a hexadecimal text, or the position of its first bad character. A text
    with a character beyond ASCII fails at that character. -/
def fromHex (s : String) : Except Nat ByteArray :=
  let cs := s.toList
  match cs.findIdx? (·.toNat > 127) with
  | some i => .error i
  | none => (readHexPairs cs 0).map fun bs => ByteArray.mk bs.toArray

/-- The lowercase hexadecimal text of a byte string. -/
def toHex (b : ByteArray) : String :=
  String.ofList (b.toList.flatMap fun x =>
    [Nat.digitChar (x.toNat / 16), Nat.digitChar (x.toNat % 16)])

end Blueprints.Text
