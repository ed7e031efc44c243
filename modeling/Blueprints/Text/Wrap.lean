
namespace Blueprints.Text

/-- Whether a character is a blank that separates chunks. -/
def isWrapBlank (c : Char) : Bool :=
  c == ' ' || c == '\t' || c == '\n' || c == '\x0b' || c == '\x0c' || c == '\r'

/-- Whether a character counts as a letter for breaking at hyphens: a word character that is
    not a digit. -/
def isWrapLetter (c : Char) : Bool := c.isAlpha || c == '_' || (c.toNat > 127 && !c.isWhitespace)

/-- Whether a word may break right after the hyphen at position `i`: two letters (or a letter,
    a hyphen and a letter) before it and a letter, perhaps after a hyphen, then a letter after
    it. -/
def breaksAfter (w : Array Char) (i : Nat) : Bool :=
  let at_ (k : Nat) : Char := w.getD k ' '
  let before := i ≥ 2 && isWrapLetter (at_ (i - 1)) && isWrapLetter (at_ (i - 2)) ||
    i ≥ 3 && isWrapLetter (at_ (i - 1)) && at_ (i - 2) == '-' && isWrapLetter (at_ (i - 3))
  let after := isWrapLetter (at_ (i + 1)) &&
    (isWrapLetter (at_ (i + 2)) || at_ (i + 2) == '-' && isWrapLetter (at_ (i + 3)))
  before && after

/-- Cuts a word into the pieces that wrapping may put on different lines. -/
def wordPieces (w : List Char) : List String :=
  let arr := w.toArray
  let (pieces, current) := (List.range arr.size).foldl (fun (acc : List String × List Char) i =>
    let c := arr.getD i ' '
    let cur := acc.2 ++ [c]
    if c == '-' && breaksAfter arr i then (acc.1 ++ [String.ofList cur], []) else (acc.1, cur))
    ([], [])
  if current.isEmpty then pieces else pieces ++ [String.ofList current]

/-- Cuts text into chunks: runs of blanks, and the pieces of the words between them. -/
def chunksOf : Nat -> List Char -> List String
  | 0, _ => []
  | _, [] => []
  | n + 1, c :: cs =>
    if isWrapBlank c then
      String.ofList (c :: cs.takeWhile isWrapBlank) :: chunksOf n (cs.dropWhile isWrapBlank)
    else
      let word := c :: cs.takeWhile (!isWrapBlank ·)
      wordPieces word ++ chunksOf n (cs.dropWhile (!isWrapBlank ·))

def isBlankChunk (s : String) : Bool := s.toList.all isWrapBlank

/-- How wrapped lines are indented. -/
structure Indents where
  first : String := ""
  rest : String := ""

/-- Takes chunks onto a line while they fit in `avail` columns: the chunks taken, their length,
    and the chunks left. -/
def takeFitting (avail : Nat) : List String -> Nat -> List String × Nat × List String
  | [], len => ([], len, [])
  | c :: cs, len =>
    if len + c.length ≤ avail then
      let (more, l, rest) := takeFitting avail cs (len + c.length)
      (c :: more, l, rest)
    else ([], len, c :: cs)

/-- Fills lines from chunks, the first line indented by `ind.first` and the others by
    `ind.rest`. A continued line drops one leading blank chunk, every line drops a trailing
    one, and a chunk too long for any line is cut to what is left of the current one. Every
    step makes a line or shortens a chunk, so the budget bounds the steps. -/
def wrapChunks (width : Nat) (ind : Indents) : Nat -> List String -> List String -> List String
  | 0, lines, _ => lines
  | _, lines, [] => lines
  | n + 1, lines, chunks =>
    let indent := if lines.isEmpty then ind.first else ind.rest
    let avail := width - indent.length
    let chunks := match chunks with
      | c :: cs => if isBlankChunk c && !lines.isEmpty then cs else chunks
      | [] => []
    let (line, len, rest) := takeFitting avail chunks 0
    let (line, rest) := match rest with
      | c :: cs =>
        if c.length > avail then
          let space := max (avail - len) 1
          (line ++ [String.ofList (c.toList.take space)], String.ofList (c.toList.drop space) :: cs)
        else (line, rest)
      | [] => (line, rest)
    let line := match line.reverse with
      | last :: before => if isBlankChunk last then before.reverse else line
      | [] => line
    let lines := if line.isEmpty then lines else lines ++ [indent ++ String.join line]
    wrapChunks width ind n lines rest

def wrapLines (width : Nat) (ind : Indents) (text : String) : List String :=
  let chunks := chunksOf (text.length + 1) text.toList
  wrapChunks width ind (4 * text.length + 8) [] chunks

/-- Text with tabs moved to the next multiple of eight columns. -/
def expandTabs (text : String) : String :=
  let (out, _) := text.toList.foldl (fun (acc : List Char × Nat) c =>
    if c == '\t' then
      let fill := 8 - acc.2 % 8
      (acc.1 ++ List.replicate fill ' ', acc.2 + fill)
    else if c == '\n' || c == '\r' then (acc.1 ++ [c], 0)
    else (acc.1 ++ [c], acc.2 + 1)) ([], 0)
  String.ofList out

/-- A paragraph of help text: its indentation, whether its lines stay as they are, and its
    text. -/
structure Paragraph where
  indent : Nat
  raw : Bool
  text : String

/-- Gathers the lines of a text into paragraphs separated by blank lines. -/
def paragraphs (text : String) : List Paragraph :=
  let flush (acc : List Paragraph) (buf : List String) (indent : Nat) : List Paragraph :=
    match buf with
    | [] => acc
    | first :: rest =>
      if first.trimAscii.toString == "\x08" then acc ++ [⟨indent, true, "\n".intercalate rest⟩]
      else acc ++ [⟨indent, false, " ".intercalate buf⟩]
  let lines := text.splitOn "\n"
  let lines := if text.endsWith "\n" then lines.dropLast else lines
  let (acc, buf, indent) := lines.foldl (fun (st : List Paragraph × List String × Option Nat)
      line =>
    let (acc, buf, indent) := st
    if line.isEmpty then (flush acc buf (indent.getD 0), [], none)
    else match indent with
      | none =>
        let stripped := String.ofList (line.toList.dropWhile (· == ' '))
        (acc, buf ++ [stripped], some (line.length - stripped.length))
      | some i => (acc, buf ++ [line], some i)) ([], [], none)
  flush acc buf (indent.getD 0)

/-- Wraps help text to a width, paragraph by paragraph, with the given indentation. -/
def wrapText (width : Nat) (ind : Indents) (text : String) : String :=
  let ps := paragraphs (expandTabs text)
  "\n\n".intercalate (ps.map fun p =>
    let extra := String.ofList (List.replicate p.indent ' ')
    let ind' : Indents := { first := ind.first ++ extra, rest := ind.rest ++ extra }
    if p.raw then
      if p.text.isEmpty then "" else
      "\n".intercalate ((p.text.splitOn "\n").zipIdx.map fun (line, i) =>
        (if i == 0 then ind'.first else ind'.rest) ++ line)
    else "\n".intercalate (wrapLines width ind' p.text))

/-- Wraps one paragraph of text to a width, without looking for paragraphs. -/
def fillText (width : Nat) (ind : Indents) (text : String) : String :=
  "\n".intercalate (wrapLines width ind (expandTabs text))

end Blueprints.Text
