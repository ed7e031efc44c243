import Blueprints.Json.Basic

namespace Blueprints.Text

/-- A number read from text. -/
inductive NumberText where
  | finite (value : Decimal)
  | infinite (negative : Bool)
  | notANumber
deriving Repr, Inhabited

/-- The value of a run of digits grouped by single underscores, and how many digits it has;
    `none` when the run is empty, has another character, or misplaces an underscore. -/
def groupedDigits (cs : List Char) : Option (Nat × Nat) :=
  if cs.isEmpty || cs.head? == some '_' || cs.getLast? == some '_' then none
  else if (cs.zip cs.tail).any (fun (a, b) => a == '_' && b == '_') then none
  else
    let digits := cs.filter (· != '_')
    if digits.all Char.isDigit then
      some (digits.foldl (fun acc c => 10 * acc + (c.toNat - '0'.toNat)) 0, digits.length)
    else none

def splitSign (cs : List Char) : Bool × List Char :=
  match cs with
  | '-' :: rest => (true, rest)
  | '+' :: rest => (false, rest)
  | rest => (false, rest)

/-- Whether a character is an ASCII blank: space, tab, line feed, carriage return, vertical tab
    or form feed. -/
def isAsciiBlank (c : Char) : Bool :=
  c == ' ' || c == '\t' || c == '\n' || c == '\r' || c == '\x0b' || c == '\x0c'

/-- The exponent of a number, after its `e`. -/
def exponentOf? (cs : List Char) : Option Int :=
  let (negative, rest) := splitSign cs
  (groupedDigits rest).map fun (n, _) => if negative then -(n : Int) else n

/-- The digits before and after the point, each possibly empty but not both. -/
def mantissaOf? (cs : List Char) : Option (Nat × Nat × Nat) :=
  let whole := cs.takeWhile (· != '.')
  let rest := cs.dropWhile (· != '.')
  let fraction := rest.drop 1
  if rest.isEmpty then
    (groupedDigits whole).map fun (w, _) => (w, 0, 0)
  else if whole.isEmpty then
    (groupedDigits fraction).map fun (f, k) => (0, f, k)
  else if fraction.isEmpty then
    (groupedDigits whole).map fun (w, _) => (w, 0, 0)
  else
    match groupedDigits whole, groupedDigits fraction with
    | some (w, _), some (f, k) => some (w, f, k)
    | _, _ => none

/-- Reads a number from text; `none` when the text is not one. -/
def NumberText.read? (text : String) : Option NumberText :=
  let cs := (text.toList.dropWhile isAsciiBlank).reverse.dropWhile isAsciiBlank |>.reverse
  let (negative, body) := splitSign cs
  let word := String.ofList (body.map Char.toLower)
  if word == "inf" || word == "infinity" then some (.infinite negative)
  else if word == "nan" then some .notANumber
  else
    let mantissa := body.takeWhile (fun c => c != 'e' && c != 'E')
    let afterMantissa := body.dropWhile (fun c => c != 'e' && c != 'E')
    let exponent? : Option Int := if afterMantissa.isEmpty then some 0
      else exponentOf? (afterMantissa.drop 1)
    match mantissaOf? mantissa, exponent? with
    | some (w, f, k), some e =>
      let digits : Int := (w * Nat.pow 10 k + f : Nat)
      some (.finite ⟨if negative then -digits else digits, e - k⟩)
    | _, _ => none

/-- Reads an integer from text: blanks around it, a sign, and digits grouped by single
    underscores; `none` when the text is not one. -/
def readInt? (text : String) : Option Int :=
  let cs := (text.toList.dropWhile isAsciiBlank).reverse.dropWhile isAsciiBlank |>.reverse
  let (negative, body) := splitSign cs
  (groupedDigits body).map fun (n, _) => if negative then -(n : Int) else n

/-- The integer part of a decimal: the decimal cut toward zero. -/
def truncateDecimal (d : Decimal) : Int :=
  if d.exponent ≥ 0 then d.mantissa * Int.pow 10 d.exponent.toNat
  else d.mantissa.tdiv (Int.pow 10 (-d.exponent).toNat)

end Blueprints.Text
