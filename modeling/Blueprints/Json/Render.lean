import Blueprints.Json.Basic

namespace Blueprints.Decimal

/-- The shortest text of a decimal number: positional for exponents in `[-4, 16)`, scientific
    otherwise, and always with a point or an exponent. -/
def render (d : Decimal) : String :=
  let n := d.normalize
  let sign := if n.mantissa < 0 then "-" else ""
  let digits := toString n.mantissa.natAbs
  let len := digits.length
  -- the power of ten of the leading digit
  let lead : Int := n.exponent + len - 1
  if n.mantissa = 0 then "0.0"
  else if -4 ≤ lead ∧ lead < 16 then
    if n.exponent ≥ 0 then sign ++ digits ++ String.ofList (List.replicate n.exponent.toNat '0') ++ ".0"
    else if lead ≥ 0 then
      let k := (lead + 1).toNat
      sign ++ String.ofList (digits.toList.take k) ++ "." ++ String.ofList (digits.toList.drop k)
    else sign ++ "0." ++ String.ofList (List.replicate (-lead - 1).toNat '0') ++ digits
  else
    let mant := match digits.toList with
      | c :: [] => String.ofList [c]
      | c :: rest => String.ofList (c :: '.' :: rest)
      | [] => "0"
    let expSign := if lead < 0 then "-" else "+"
    let expDigits := toString lead.natAbs
    let expText := if expDigits.length < 2 then "0" ++ expDigits else expDigits
    sign ++ mant ++ "e" ++ expSign ++ expText

end Blueprints.Decimal

namespace Blueprints.Json

/-- How a value is laid out as text. -/
structure Layout where
  indent : Option Nat := none
  itemSep : String := ", "
  keySep : String := ": "
  sortKeys : Bool := false
  asciiOnly : Bool := true

/-- One line, fields in their own order, non-ASCII escaped. -/
def Layout.compact : Layout := {}

/-- One line with keys sorted: the form of every answer. -/
def Layout.sorted : Layout := { sortKeys := true }

/-- One item a line, indented by `n` spaces a level, fields in their own order. -/
def Layout.pretty (n : Nat) : Layout := { indent := some n, itemSep := "," }

/-- The four lowercase hexadecimal digits of a UTF-16 code unit. -/
def hex4Text (u : Nat) : String :=
  let d (k : Nat) : Char := Nat.digitChar ((u / Nat.pow 16 k) % 16)
  String.ofList [d 3, d 2, d 1, d 0]

/-- The escape of one character inside a string literal. With `asciiOnly`, characters outside
    space to tilde are escaped, those above the basic plane as a surrogate pair. -/
def escapeChar (asciiOnly : Bool) (c : Char) : String :=
  if c == '"' then "\\\""
  else if c == '\\' then "\\\\"
  else if c == '\n' then "\\n"
  else if c == '\r' then "\\r"
  else if c == '\t' then "\\t"
  else if c.toNat == 8 then "\\b"
  else if c.toNat == 12 then "\\f"
  else if c.toNat < 0x20 then "\\u" ++ hex4Text c.toNat
  else if !asciiOnly || c.toNat < 0x7f then c.toString
  else if c.toNat < 0x10000 then "\\u" ++ hex4Text c.toNat
  else
    let v := c.toNat - 0x10000
    "\\u" ++ hex4Text (0xD800 + v / 0x400) ++ "\\u" ++ hex4Text (0xDC00 + v % 0x400)

def quote (asciiOnly : Bool) (s : String) : String :=
  "\"" ++ String.join (s.toList.map (escapeChar asciiOnly)) ++ "\""

/-- Fields in key order; the sort is stable, so equal keys keep their order. -/
def sortFields {α : Type} (fs : List (String × α)) : List (String × α) :=
  fs.mergeSort (fun a b => decide (a.1 ≤ b.1))

mutual
/-- The text of a value at nesting depth `depth`. -/
def renderAt (l : Layout) (depth : Nat) : Json -> String
  | .null => "null"
  | .bool b => if b then "true" else "false"
  | .int n => toString n
  | .float x => x.render
  | .str s => quote l.asciiOnly s
  | .arr [] => "[]"
  | .arr items => wrap l depth "[" "]" (renderItems l (depth + 1) items)
  | .obj [] => "{}"
  | .obj fields =>
    let entries := renderFields l (depth + 1) fields
    let ordered := if l.sortKeys then sortFields entries else entries
    wrap l depth "\x7b" "\x7d" (ordered.map fun (k, v) => quote l.asciiOnly k ++ l.keySep ++ v)

def renderItems (l : Layout) (depth : Nat) : List Json -> List String
  | [] => []
  | v :: vs => renderAt l depth v :: renderItems l depth vs

/-- The texts of object values, beside their keys. -/
def renderFields (l : Layout) (depth : Nat) : List (String × Json) -> List (String × String)
  | [] => []
  | (k, v) :: fs => (k, renderAt l depth v) :: renderFields l depth fs

/-- Brackets around items, one a line when the layout indents. -/
def wrap (l : Layout) (depth : Nat) (opening closing : String) (items : List String) : String :=
  match l.indent with
  | none => opening ++ l.itemSep.intercalate items ++ closing
  | some n =>
    let inner := "\n" ++ String.ofList (List.replicate (n * (depth + 1)) ' ')
    let outer := "\n" ++ String.ofList (List.replicate (n * depth) ' ')
    opening ++ inner ++ (l.itemSep ++ inner).intercalate items ++ outer ++ closing
end

def render (l : Layout) (v : Json) : String := renderAt l 0 v

end Blueprints.Json
