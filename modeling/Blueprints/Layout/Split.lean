import Blueprints.Layout.Lines

namespace Blueprints.Layout

/-- What the splits may rely on: whether the target versions allow a trailing comma after
    unpacking in calls and in definitions, and whether invisible brackets must be written. -/
structure Features where
  callComma : Bool := false
  defComma : Bool := false
  forceParens : Bool := false
deriving Repr, Inhabited

/-- A split of lines, which may not apply, over the brackets shown so far. -/
abbrev SplitM := ExceptT Unit (StateM World)

def cannot {α : Type} : SplitM α := throw ()

def newId : SplitM Nat := modifyGet fun w => (w.fresh, { w with fresh := w.fresh + 1 })

def addedComma (id : Nat) : Piece := { id, kind := .op, tok := ",", value := ",", loose := true }

/-- An empty line like another: its depth and whether it stands inside brackets. -/
def Line.blank (l : Line) : Line := { depth := l.depth, insideBrackets := l.insideBrackets }

/-- A line with the blank before its first piece removed. -/
def Line.trimFirst (l : Line) : Line :=
  match l.leaves[0]? with
  | some p => { l with leaves := l.leaves.set! 0 { p with before := "" } }
  | none => l

/-- Adds pieces in order with the comments that follow each on `whole`, preformatted. -/
def Line.appendWithComments (w : World) (l : Line) (whole : Line) (ps : List Piece) : Line :=
  ps.foldl (fun l p =>
    (whole.commentsAfter p.id).foldl (fun l c => l.append w c true) (l.append w p true)) l

/-- Whether the body of a split at a bracket should be split at once at its commas: it holds
    commas at its own depth and either ends with one or stands in a display or an import. -/
def shouldSplitBody (w : World) (body : Line) (opening : Piece) : Bool :=
  if opening.parent == .none || opening.loose || !(["", "[", "\x7b", "("].contains (opening.shown w))
  then false
  else
    match body.leaves.back? with
    | none => false
    | some last =>
      match body.tracker.maxPriority [last.id] with
      | none => false
      | some p =>
        p == commaPriority &&
          (last.isOp "," || opening.parent == .atom || opening.parent == .importFrom)

/-- One part of a split at a bracket. The part inside the brackets is indented, stands inside
    brackets, and gets a trailing comma when it is the body of an import or the single
    parameter of a definition. -/
def buildPart (leaves : List Piece) (whole : Line) (opening : Piece) (isBody : Bool) :
    SplitM Line := do
  let w <- get
  if !isBody then return (Line.appendWithComments w { depth := whole.depth } whole leaves)
  let mut leaves := leaves
  match leaves with
  | [] => pure ()
  | first :: rest =>
    leaves := { first with before := "" } :: rest
    let noCommas := whole.isDef && !(opening.shown w).isEmpty && !leaves.any (·.isOp ",")
    if whole.isImport || noCommas then
      let arr := leaves.toArray
      let keep := (arr.toList.reverse.dropWhile (·.kind == .standalone)).length
      if keep > 0 && !((arr[keep - 1]?.map (·.isOp ",")).getD true) then
        let comma := addedComma (<- newId)
        leaves := (arr.extract 0 keep).toList ++ [comma] ++ (arr.extract keep arr.size).toList
  let w <- get
  let base : Line := { depth := whole.depth + 1, insideBrackets := true }
  let result := Line.appendWithComments w base whole leaves
  pure (if shouldSplitBody w result opening then { result with shouldSplitRhs := true } else result)

/-- Whether a line can certainly not be split: a single piece, or a string followed by a chain
    of simple calls and attribute lookups. -/
def canBeSplit (l : Line) : Bool := Id.run do
  let leaves := l.leaves
  if leaves.size < 2 then return false
  let first := leaves[0]?.getD default
  let second := leaves[1]?.getD default
  if first.kind == .string && second.isOp "." then
    let mut calls := 0
    let mut dots := 0
    let mut next := leaves.back?.getD default
    for leaf in (leaves.extract 0 (leaves.size - 1)).toList.reverse do
      if leaf.isOpening then
        if !next.isClosing then return false
        calls := calls + 1
      else if leaf.isOp "." then dots := dots + 1
      else if leaf.kind == .name then
        if !(next.isOp "." || next.isOpening) then return false
      else if !leaf.isClosing then return false
      if dots > 1 && calls > 1 then return false
      next := leaf
  return true

/-- Whether the brackets around a line that opens with a bracket can stay unwritten: what
    follows the matching closing bracket fits, up to the next bracket. -/
def canOmitOpeningParen (w : World) (l : Line) (first : Piece) : Bool := Id.run do
  let mut remainder := false
  let mut length := 4 * l.depth
  let mut index := l.leaves.size - 1
  for (i, leaf, width) in l.widths w do
    index := i
    if leaf.isClosing && leaf.opener == first.id then remainder := true
    if remainder then
      length := length + width
      if length > lineLength then return false
      if leaf.isOpening then remainder := false
  return l.leaves.size == index + 1

/-- Whether the invisible brackets around the body `l` of a split can stay unwritten, the
    body then splitting at its own brackets: it has no delimiters, or a single one of its
    highest priority that is the dot of a call chain, or it ends in a bracket whose pair starts
    early enough or after other brackets. -/
def canOmitInvisibleParens (w : World) (l : Line) : Bool := Id.run do
  let bt := l.tracker
  if bt.delimiters.isEmpty then return true
  let top := bt.maxPriority.getD 0
  if bt.countWith top > 1 then return false
  if top == dotPriority then return true
  let n := l.leaves.size
  if n < 2 then return false
  let first := l.leaves[0]?.getD default
  let second := l.leaves[1]?.getD default
  if first.isOpening && !second.isClosing && canOmitOpeningParen w l first then return true
  let penultimate := l.leaves[n - 2]?.getD default
  let last := l.leaves[n - 1]?.getD default
  if last.isOp ")" || last.isOp "\x7d" ||
      (last.isOp "]" && !last.loose && last.parent != .none && last.parent != .trailer) then
    if penultimate.isOpening then return false
    if first.kind == .string && isMultilineString first.value then return true
    let mut length := 4 * l.depth
    let mut seenOther := false
    for (_, leaf, width) in l.widths w do
      length := length + width
      if leaf.id == last.opener then
        if seenOther || length ≤ lineLength then return true
      else if leaf.isOpening then seenOther := true
  return false

/-- Splits a line at the bracket of its first opening bracket: the head up to and with it,
    the body inside, and the tail from the closing bracket on. -/
def leftHandSplit (line : Line) : SplitM (List Line) := do
  let mut head : Array Piece := #[]
  let mut body : Array Piece := #[]
  let mut tail : Array Piece := #[]
  let mut part : Nat := 0
  let mut matching : Option Piece := none
  for leaf in line.leaves do
    if part == 1 && leaf.isClosing && some leaf.opener == matching.map (·.id) then
      part := if body.isEmpty then 0 else 2
    if part == 0 then head := head.push leaf
    else if part == 1 then body := body.push leaf
    else tail := tail.push leaf
    if part == 0 && leaf.isOpening then
      matching := some leaf
      part := 1
  match matching with
  | none => cannot
  | some opening =>
    let h <- buildPart head.toList line opening false
    let b <- buildPart body.toList line opening true
    let t <- buildPart tail.toList line opening false
    pure ([h, b, t].filter (!·.isEmpty))

/-- The pieces of a line divided at its last closing bracket not in `passed`: tail, body and
    head, each from the end, with the bracket pair. -/
def divideAtEnd (line : Line) (passed : List Nat) :
    List Piece × List Piece × List Piece × Option Nat × Option Piece := Id.run do
  let mut tail : List Piece := []
  let mut body : List Piece := []
  let mut head : List Piece := []
  let mut part : Nat := 0
  let mut opening : Option Nat := none
  let mut closing : Option Piece := none
  for leaf in line.leaves.toList.reverse do
    if part == 1 && some leaf.id == opening then
      part := if body.isEmpty then 0 else 2
    if part == 0 then tail := leaf :: tail
    else if part == 1 then body := leaf :: body
    else head := leaf :: head
    if part == 0 && leaf.isClosing && !passed.contains leaf.id then
      opening := some leaf.opener
      closing := some leaf
      part := 1
  (tail, body, head, opening, closing)

def showBracket (p : Piece) : SplitM Unit :=
  modify fun w => if p.isOp "(" || p.isOp ")" then { w with shown := p.id :: w.shown } else w

/-- Splits a line at its last closing bracket not in `passed`. When that bracket pair is
    invisible and the body may do without it (it holds no comment on a line of its own at its
    outer depth, and its shape allows it), the split is tried at the brackets before it first;
    if that fails, the invisible pair is shown unless the body can neither be split nor fit. -/
def rightHandSplit : Nat -> Line -> Features -> List Nat -> SplitM (List Line)
  | 0, _, _, _ => cannot
  | fuel + 1, line, features, passed => do
    let (tail, body, head, opening?, closing?) := divideAtEnd line passed
    let some openingId := opening? | cannot
    let some closing := closing? | cannot
    if head.isEmpty then cannot
    let some opening := line.leaves.find? (·.id == openingId) | cannot
    let h <- buildPart head line opening false
    let b <- buildPart body line opening true
    let t <- buildPart tail line opening false
    let w <- get
    if !features.forceParens && opening.isOp "(" && (opening.shown w).isEmpty &&
        closing.isOp ")" && (closing.shown w).isEmpty && !line.isImport &&
        !b.leaves.any (fun p => p.kind == .standalone && p.depth == 0) &&
        canOmitInvisibleParens w b then
      let attempt <- tryCatch (do
          let ls <- rightHandSplit fuel line features (closing.id :: passed)
          pure (some ls))
        (fun _ => pure none)
      match attempt with
      | some ls => return ls
      | none =>
        let w <- get
        if !(canBeSplit b || b.fits w) then cannot
    showBracket opening
    showBracket closing
    pure ([h, b, t].filter (!·.isEmpty))

/-- Splits a line at its last bracket, passing over brackets at the end as long as the head
    of the split fits: the brackets passed over are those of trailers that fit on the line
    from the end, but never a pair that ends with a trailing comma. When no such split has a
    head that fits, the split at the last bracket is taken. -/
def rhsSplit (fuel : Nat) (line : Line) (features : Features) : SplitM (List Line) := do
  let attempt (passed : List Nat) : SplitM (Option (List Line)) := do
    let lines <- rightHandSplit fuel line features passed
    let w <- get
    pure (if (lines.head?.map (·.fits w)).getD false then some lines else none)
  if !line.magicComma then
    if let some ls <- attempt [] then return ls
  let n := line.leaves.size
  let mut length := 4 * line.depth
  let mut opening : Option Nat := none
  let mut closing : Option Piece := none
  let mut inner : List Nat := []
  let mut passed : List Nat := []
  for k in [0:n] do
    let index := n - 1 - k
    let leaf := line.leaves[index]?.getD default
    let w <- get
    if (leaf.shown w).contains '\n' then break
    let width := leaf.before.length + (leaf.shown w).length +
      ((line.commentsAfter leaf.id).toList.map (·.value.length)).foldr (· + ·) 0
    length := length + width
    if length > lineLength then break
    if opening.isSome then
      if some leaf.id == opening then opening := none
      else if leaf.isClosing then inner := leaf.id :: inner
    else if leaf.isClosing then
      let prev := if index > 0 then line.leaves[index - 1]? else none
      if (prev.map (·.isOpening)).getD false then
        inner := leaf.id :: inner
        continue
      if let some c := closing then
        passed := c.id :: passed ++ inner
        inner := []
        if let some ls <- attempt passed then return ls
      if (prev.map (·.isOp ",")).getD false then break
      if !(leaf.shown w).isEmpty then
        opening := some leaf.opener
        closing := some leaf
  rightHandSplit fuel line features []

/-- Adds a piece to the line being filled by a split, or starts a new line with it when the
    line cannot take it. -/
def pushPiece (w : World) (acc : Array Line × Line) (leaf : Piece) : Array Line × Line :=
  let (done, cur) := acc
  match cur.appendSafe w leaf true with
  | some l => (done, l)
  | none => (done.push cur, cur.blank.append w leaf)

/-- Splits a line inside brackets after each of its delimiters of the highest priority, not
    counting its last piece. A dot counts only when there are several. A trailing comma is
    added after the last item of a split at commas, unless unpacking at the outer depth rules
    it out for the target versions. -/
def delimiterSplit (line : Line) (features : Features) : SplitM (List Line) := do
  let some last := line.leaves.back? | cannot
  let bt := line.tracker
  let some delimiter := bt.maxPriority [last.id] | cannot
  if delimiter == dotPriority && bt.countWith delimiter == 1 then cannot
  let w <- get
  let mut acc : Array Line × Line := (#[], line.blank)
  let mut lowest : Option Nat := none
  let mut safe := true
  for leaf in line.leaves do
    acc := pushPiece w acc leaf
    for c in line.commentsAfter leaf.id do
      acc := pushPiece w acc c
    let low := match lowest with
      | some d => min d leaf.depth
      | none => leaf.depth
    lowest := some low
    if leaf.depth == low then
      if leaf.isVararg [.typedargslist] then safe := safe && features.defComma
      else if leaf.isVararg [.arglist, .argument] then safe := safe && features.callComma
    if (bt.delimiters.find? (·.1 == leaf.id)).map (·.2) == some delimiter then
      acc := (acc.1.push acc.2, line.blank)
  let (done, cur) := acc
  let mut done := done
  if !cur.isEmpty then
    let mut cur := cur
    if safe && delimiter == commaPriority && !last.isOp "," && last.kind != .standalone then
      cur := cur.append w (addedComma (<- newId))
    done := done.push cur
  pure (done.toList.map Line.trimFirst)

/-- Splits a line at its comments that stand on their own lines at its outer depth. -/
def standaloneSplit (line : Line) : SplitM (List Line) := do
  if !line.leaves.any (fun p => p.kind == .standalone && p.depth == 0) then cannot
  let w <- get
  let mut acc : Array Line × Line := (#[], line.blank)
  for leaf in line.leaves do
    acc := pushPiece w acc leaf
    for c in line.commentsAfter leaf.id do
      acc := pushPiece w acc c
  let (done, cur) := acc
  let done := if cur.isEmpty then done else done.push cur
  pure (done.toList.map Line.trimFirst)

/-- Whether the pieces from `index` on, walking by `step`, make a simple lookup: names and
    dots up to something that is not a call or a subscript. -/
def isSimpleLookup (leaves : Array Piece) (index : Nat) (forward : Bool) : Bool :=
  go leaves.size index
where
  go : Nat -> Nat -> Bool
    | 0, _ => true
    | fuel + 1, i =>
      match leaves[i]? with
      | none => true
      | some p =>
        if forward && (p.isOp "(" || p.isOp "[") then false
        else if !forward && (p.isOp ")" || p.isOp "]") then false
        else if !(p.kind == .name || p.isOp ".") || p.value == "for" then true
        else if forward then go fuel (i + 1)
        else if i == 0 then true
        else go fuel (i - 1)

/-- Whether the operand of a power at `index` is simple: a name, a number or a simple lookup,
    perhaps after a unary sign. -/
def isSimpleOperand (leaves : Array Piece) (index : Nat) (exponent : Bool) : Bool :=
  match leaves[index]? with
  | none => false
  | some p =>
    if p.kind == .name || p.kind == .number then isSimpleLookup leaves index exponent
    else if p.isOp "+" || p.isOp "-" || p.isOp "~" then
      match leaves[index + 1]? with
      | some q =>
        if q.kind == .name || q.kind == .number then isSimpleLookup leaves (index + 1) true
        else false
      | none => false
    else false

/-- Removes the blanks around each `**` whose operands are simple, in a copy of the line. -/
def hugPowers (line : Line) : SplitM (List Line) := do
  if !line.leaves.any (·.isOp "**") then cannot
  let mut out : Line :=
    { depth := line.depth, insideBrackets := line.insideBrackets,
      shouldSplitRhs := line.shouldSplitRhs, magicComma := line.magicComma }
  let leaves := line.leaves
  let n := leaves.size
  let mut hug := false
  for idx in [0:n] do
    let leaf := leaves[idx]?.getD default
    let id <- newId
    let mut copy := { leaf with id, loose := true }
    if hug then
      copy := { copy with before := "" }
    hug := 0 < idx && idx + 1 < n && leaf.isOp "**" && isSimpleOperand leaves (idx - 1) false &&
      ((leaves[idx - 1]?.map (·.value != "lambda")).getD true) &&
      isSimpleOperand leaves (idx + 1) true
    if hug then
      copy := { copy with before := "" }
    let w <- get
    out := out.append w copy true
    for c in line.commentsAfter leaf.id do
      out := out.append w c true
  pure [out]

/-- The ways of splitting a line, in the order they are tried. -/
inductive Transform where
  | left
  | delimiters
  | standalone
  | right
  | powers
deriving BEq, Repr, Inhabited

def Transform.apply (fuel : Nat) (t : Transform) (line : Line) (features : Features) :
    SplitM (List Line) :=
  match t with
  | .left => leftHandSplit line
  | .delimiters => delimiterSplit line features
  | .standalone => standaloneSplit line
  | .right => rhsSplit fuel line features
  | .powers => hugPowers line

/-- A copy of a line with new pieces in place of its own, and the old pieces recorded as
    replaced. -/
def copyLine (line : Line) : SplitM Line := do
  let mut out : Line :=
    { depth := line.depth, insideBrackets := line.insideBrackets,
      shouldSplitRhs := line.shouldSplitRhs, magicComma := line.magicComma }
  let mut first := true
  for p in line.leaves do
    let id <- newId
    let w <- get
    let loose := p.loose || w.detached.contains p.id
    let before := if first then "" else p.before
    let q := { p with id, value := p.shown w, loose, before }
    first := false
    out := out.append w q false ""
    for c in line.commentsAfter p.id do
      out := out.append w c true
  modify fun w => { w with detached := line.leaves.toList.map (·.id) ++ w.detached }
  pure out

mutual
/-- The lines a line is split into: as it is when it fits, holds no trailing comma to honour
    and no comment on its own line inside brackets; otherwise by the first way of splitting
    that applies, each resulting line split in turn. -/
def transformLine : Nat -> Line -> Features -> SplitM (List Line)
  | 0, line, _ => pure [line]
  | fuel + 1, line, features => do
    if line.isComment then return [line]
    let w <- get
    let text := line.text w
    let ways : List Transform :=
      if !line.shouldSplitRhs && !line.magicComma && line.fits w &&
          !(line.insideBrackets && line.hasStandalone) then [.powers]
      else if line.isDef then [.left, .powers]
      else if line.insideBrackets then [.delimiters, .standalone, .right, .powers]
      else [.right, .powers]
    for way in ways do
      let result <- tryCatch (do
          let ls <- runTransform fuel line way features text
          pure (some ls))
        (fun _ => pure none)
      if let some ls := result then return ls
    pure [line]

/-- Applies a way of splitting and splits the resulting lines in turn; a resulting line equal
    to the line itself makes the way fail. A split at the last bracket that keeps invisible
    brackets hidden and gives a first line too long is tried again with them written, and
    that result wins when all its lines fit. -/
def runTransform : Nat -> Line -> Transform -> Features -> String -> SplitM (List Line)
  | 0, _, _, _, _ => cannot
  | fuel + 1, line, way, features, text => do
    let lines <- way.apply fuel line features
    let mut result : List Line := []
    for l in lines do
      if l.text (<- get) == text then cannot
      result := result ++ (<- transformLine fuel l features)
    let w <- get
    let firstFits := (result.head?.map (·.fits w)).getD false
    if way == .right && !line.tracker.invisible.isEmpty &&
        !line.tracker.invisible.any (fun b => !(b.shown w).isEmpty) &&
        !line.hasMultilineString && !firstFits &&
        !line.leaves.any (fun p => p.loose || w.detached.contains p.id) then
      let copy <- copyLine line
      let second <- runTransform fuel copy way { features with forceParens := true } text
      let w <- get
      if second.all (·.fits w) then result := second
    pure result
end

end Blueprints.Layout
