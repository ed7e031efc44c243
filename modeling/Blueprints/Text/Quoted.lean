import Blueprints.Text.Printable

namespace Blueprints.Text

/-- The `width` lowercase hexadecimal digits of `n`. -/
def hexDigits (width n : Nat) : String :=
  String.ofList ((List.range width).reverse.map fun k => Nat.digitChar ((n / Nat.pow 16 k) % 16))

/-- How one character stands inside a literal quoted by `q`. -/
def escapeInLiteral (q : Char) (c : Char) : String :=
  if c == q || c == '\\' then String.ofList ['\\', c]
  else if c == '\t' then "\\t"
  else if c == '\n' then "\\n"
  else if c == '\r' then "\\r"
  else if isPrintable c then c.toString
  else if c.toNat < 0x100 then "\\x" ++ hexDigits 2 c.toNat
  else if c.toNat < 0x10000 then "\\u" ++ hexDigits 4 c.toNat
  else "\\U" ++ hexDigits 8 c.toNat

/-- The quote character that a literal of `s` uses. -/
def literalQuote (s : String) : Char :=
  if s.contains '\'' && !s.contains '"' then '"' else '\''

def quoted (s : String) : String :=
  let q := literalQuote s
  q.toString ++ String.join (s.toList.map (escapeInLiteral q)) ++ q.toString

end Blueprints.Text
