
namespace Blueprints.Text

/-- How a cell lies in its column. -/
inductive Align where
  | left
  | center
  | right
deriving Repr, Inhabited, BEq

def blanks (n : Nat) : String := String.ofList (List.replicate n ' ')

/-- The columns a character takes in a terminal, as a table counts them: two for the wide
    characters of East Asian scripts, none for combining marks and a few controls, and minus one
    for backspace and delete, which take a column back. -/
def charWidth (c : Char) : Int :=
  let n := c.toNat
  if 0x21 ≤ n && n ≤ 0x7e then 1
  else if (0x4e00 ≤ n && n ≤ 0x9fff) || (0xac00 ≤ n && n ≤ 0xd7af) then 2
  else if (0x300 ≤ n && n ≤ 0x36f) || (0x1ab0 ≤ n && n ≤ 0x1aff) ||
      (0x1dc0 ≤ n && n ≤ 0x1dff) || (0x20d0 ≤ n && n ≤ 0x20ff) || (0xfe20 ≤ n && n ≤ 0xfe2f) then 0
  else if (0x3040 ≤ n && n ≤ 0x30ff) || (0xff01 ≤ n && n ≤ 0xff60) ||
      (0x3000 ≤ n && n ≤ 0x303e) then 2
  else if n == 0x8 || n == 0x7f then -1
  else if n == 0 || n == 0xf || n == 0x1f then 0
  else 1

/-- The columns a text takes in a terminal. -/
def textWidth (s : String) : Int := s.foldl (fun w c => w + charWidth c) 0

/-- A text placed in a field of width `width`. -/
def justify (align : Align) (width : Int) (text : String) : String :=
  let size := textWidth text
  let excess := width - size
  let pad (n : Int) := blanks n.toNat
  match align with
  | .left => text ++ pad excess
  | .right => pad excess ++ text
  | .center =>
    if excess % 2 == 0 then pad (excess / 2) ++ text ++ pad (excess / 2)
    else if size % 2 == 1 then pad (excess / 2) ++ text ++ pad (excess / 2 + 1)
    else pad (excess / 2 + 1) ++ text ++ pad (excess / 2)

/-- A table: its headings, its rows of cells, and how each column's cells lie. -/
structure Grid where
  headers : List String
  rows : List (List String)
  aligns : List Align := []
deriving Inhabited

namespace Grid

def cellLines (cell : String) : List String := cell.splitOn "\n"

/-- The width of a cell: that of its longest line. -/
def cellWidth (cell : String) : Int :=
  match cellLines cell with
  | [] => 0
  | l :: ls => ls.foldl (fun w l => max w (textWidth l)) (textWidth l)

/-- The width of each column: its widest cell or heading. -/
def widths (g : Grid) : List Int :=
  g.headers.zipIdx.map fun (h, i) =>
    g.rows.foldl (fun w row => max w (cellWidth (row.getD i ""))) (cellWidth h)

/-- The rule above, between and below the parts of the table. -/
def rule (g : Grid) : String :=
  "+" ++ String.join (g.widths.map fun w => String.ofList (List.replicate (w + 2).toNat '-') ++ "+")

/-- One line of cells, each placed in its column. -/
def line (g : Grid) (aligns : List Align) (cells : List String) : String :=
  "|" ++ String.join ((g.widths.zipIdx.map fun (w, i) =>
    " " ++ justify (aligns.getD i .center) w (cells.getD i "") ++ " |"))

/-- The lines of a row: as many as its tallest cell has, the shorter cells left blank below. -/
def rowLines (g : Grid) (aligns : List Align) (cells : List String) : List String :=
  let split := cells.map cellLines
  let height := split.foldl (fun h ls => max h ls.length) 1
  (List.range height).map fun k => g.line aligns (split.map fun ls => ls.getD k "")

/-- The table as lines of text, without a line break after the last. -/
def render (g : Grid) : String :=
  let headerLines := g.rowLines g.aligns g.headers
  "\n".intercalate ([g.rule] ++ headerLines ++ [g.rule] ++ g.rows.flatMap (g.rowLines g.aligns) ++
    [g.rule])

end Grid

end Blueprints.Text
