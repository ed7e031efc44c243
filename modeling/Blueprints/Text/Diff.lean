
namespace Blueprints.Text

def isLineBreak (c : Char) : Bool :=
  c == '\n' || c == '\r' || c.toNat == 0x0b || c.toNat == 0x0c ||
    (0x1c ≤ c.toNat && c.toNat ≤ 0x1e) || c.toNat == 0x85 || c.toNat == 0x2028 ||
    c.toNat == 0x2029

/-- The lines of a text, each with the line break that ends it; a carriage return followed by
    a line feed is one break. -/
def linesWithEnds (s : String) : List String :=
  go s.toList []
where
  go : List Char -> List Char -> List String
    | [], acc => if acc.isEmpty then [] else [String.ofList acc.reverse]
    | '\r' :: '\n' :: rest, acc => String.ofList ('\n' :: '\r' :: acc).reverse :: go rest []
    | c :: rest, acc =>
      if isLineBreak c then String.ofList (c :: acc).reverse :: go rest []
      else go rest (c :: acc)

/-- The lines of a text that are too common to start a matching run: when the text has at
    least two hundred lines, those that occur more than once for each hundred lines, plus one. -/
def commonLines (b : Array String) : List String :=
  if b.size < 200 then []
  else
    let limit := b.size / 100 + 1
    let distinct := b.toList.foldl (fun acc l => if acc.contains l then acc else acc ++ [l]) []
    distinct.filter fun l => (b.toList.filter (· == l)).length > limit

/-- The longest run of lines that `a[alo:ahi]` and `b[blo:bhi]` share, as where it starts in
    each and its length. Runs are found without the common lines of `b`, the first longest
    being taken, and then extended over equal lines on both sides. -/
def longestLineRun (a b : Array String) (common : List String) (alo ahi blo bhi : Nat) :
    Nat × Nat × Nat := Id.run do
  let mut best : Nat × Nat × Nat := (alo, blo, 0)
  let mut prev : Array Nat := Array.replicate (b.size + 1) 0
  for i in [alo:ahi] do
    let mut next : Array Nat := Array.replicate (b.size + 1) 0
    let x := a.getD i ""
    for j in [blo:bhi] do
      let y := b.getD j ""
      if x == y && !common.contains y then
        let k := (if j > blo then prev.getD (j - 1) 0 else 0) + 1
        next := next.set! j k
        if k > best.2.2 then best := (i + 1 - k, j + 1 - k, k)
    prev := next
  let (i0, j0, k0) := best
  let mut i := i0
  let mut j := j0
  let mut k := k0
  for _ in [0:ahi] do
    if i > alo && j > blo && a.getD (i - 1) "" == b.getD (j - 1) "" then
      i := i - 1
      j := j - 1
      k := k + 1
    else break
  for _ in [0:ahi] do
    if i + k < ahi && j + k < bhi && a.getD (i + k) "" == b.getD (j + k) "" then k := k + 1
    else break
  return (i, j, k)

/-- The matching runs of `a[alo:ahi]` and `b[blo:bhi]` in order: the longest run, with the runs
    to its left before it and those to its right after it. -/
def matchingRuns (a b : Array String) (common : List String) :
    Nat -> Nat -> Nat -> Nat -> Nat -> List (Nat × Nat × Nat)
  | 0, _, _, _, _ => []
  | fuel + 1, alo, ahi, blo, bhi =>
    let (i, j, k) := longestLineRun a b common alo ahi blo bhi
    if k == 0 then []
    else
      let left := if alo < i && blo < j then matchingRuns a b common fuel alo i blo j else []
      let right := if i + k < ahi && j + k < bhi then
          matchingRuns a b common fuel (i + k) ahi (j + k) bhi
        else []
      left ++ [(i, j, k)] ++ right

/-- Runs that follow each other directly joined into one. -/
def joinAdjacent (runs : List (Nat × Nat × Nat)) : List (Nat × Nat × Nat) :=
  let (done, cur) := runs.foldl (fun (acc : List (Nat × Nat × Nat) × (Nat × Nat × Nat)) r =>
    let (done, (i1, j1, k1)) := acc
    let (i2, j2, k2) := r
    if i1 + k1 == i2 && j1 + k1 == j2 then (done, (i1, j1, k1 + k2))
    else ((if k1 > 0 then done ++ [(i1, j1, k1)] else done), (i2, j2, k2))) ([], (0, 0, 0))
  if cur.2.2 > 0 then done ++ [cur] else done

/-- What a stretch of the two texts does. -/
inductive Change where
  | equal
  | replace
  | delete
  | insert
deriving BEq, Repr, Inhabited

/-- A stretch: what it does, and the lines `i1` to `i2` of the first text and `j1` to `j2` of
    the second that it covers. -/
structure Stretch where
  change : Change
  i1 : Nat
  i2 : Nat
  j1 : Nat
  j2 : Nat
deriving Repr, Inhabited

/-- The stretches that turn `a` into `b`, in order. -/
def stretches (a b : Array String) : List Stretch :=
  let common := commonLines b
  let runs := joinAdjacent (matchingRuns a b common (a.size + b.size + 1) 0 a.size 0 b.size) ++
    [(a.size, b.size, 0)]
  let (_, _, out) := runs.foldl (fun (acc : Nat × Nat × List Stretch) r =>
    let (i, j, out) := acc
    let (ai, bj, size) := r
    let out :=
      if i < ai && j < bj then out ++ [Stretch.mk .replace i ai j bj]
      else if i < ai then out ++ [Stretch.mk .delete i ai j bj]
      else if j < bj then out ++ [Stretch.mk .insert i ai j bj]
      else out
    let out := if size > 0 then out ++ [Stretch.mk .equal ai (ai + size) bj (bj + size)] else out
    (ai + size, bj + size, out)) (0, 0, [])
  out

/-- The stretches gathered into hunks with `n` lines of context: unchanged stretches at the
    ends are cut to `n` lines, and one longer than `2 n` lines ends a hunk. -/
def hunks (a b : Array String) (n : Nat) : List (List Stretch) := Id.run do
  let mut codes := stretches a b
  if codes.isEmpty then codes := [Stretch.mk .equal 0 1 0 1]
  codes := match codes with
    | s :: rest =>
      if s.change == .equal then
        { s with i1 := max s.i1 (s.i2 - n), j1 := max s.j1 (s.j2 - n) } :: rest
      else s :: rest
    | [] => []
  codes := match codes.getLast? with
    | some s =>
      if s.change == .equal then
        codes.dropLast ++ [{ s with i2 := min s.i2 (s.i1 + n), j2 := min s.j2 (s.j1 + n) }]
      else codes
    | none => codes
  let mut groups : List (List Stretch) := []
  let mut group : List Stretch := []
  for s in codes do
    let mut s := s
    if s.change == .equal && s.i2 - s.i1 > 2 * n then
      group := group ++ [{ s with i2 := min s.i2 (s.i1 + n), j2 := min s.j2 (s.j1 + n) }]
      groups := groups ++ [group]
      group := []
      s := { s with i1 := max s.i1 (s.i2 - n), j1 := max s.j1 (s.j2 - n) }
    group := group ++ [s]
  match group with
  | [] => pure ()
  | [s] => if s.change != .equal then groups := groups ++ [group]
  | _ => groups := groups ++ [group]
  return groups

/-- A range of lines as a hunk header writes it: the first line counting from one, and the
    number of lines unless it is one; an empty range starts at the line before it. -/
def rangeText (start stop : Nat) : String :=
  let length := stop - start
  if length == 1 then toString (start + 1)
  else if length == 0 then toString start ++ ",0"
  else toString (start + 1) ++ "," ++ toString length

/-- The lines of a unified difference between two lists of lines, with the names of both and
    `n` lines of context; nothing when they are the same. -/
def unifiedLines (a b : List String) (fromName toName : String) (n : Nat) : List String :=
  let aa := a.toArray
  let bb := b.toArray
  let slice (xs : Array String) (lo hi : Nat) : List String := (xs.extract lo hi).toList
  match hunks aa bb n with
  | [] => []
  | groups =>
    ["--- " ++ fromName ++ "\n", "+++ " ++ toName ++ "\n"] ++ groups.flatMap fun g =>
      let first := g.headD default
      let last := g.getLastD default
      ("@@ -" ++ rangeText first.i1 last.i2 ++ " +" ++ rangeText first.j1 last.j2 ++ " @@\n") ::
        g.flatMap fun s =>
          if s.change == .equal then (slice aa s.i1 s.i2).map (" " ++ ·)
          else
            (if s.change == .insert then [] else (slice aa s.i1 s.i2).map ("-" ++ ·)) ++
            (if s.change == .delete then [] else (slice bb s.j1 s.j2).map ("+" ++ ·))

/-- The unified difference between two texts with five lines of context; a line that does
    not end with a line feed gets one, and a line saying that the text had none. -/
def unifiedDiff (a b : String) (fromName toName : String) : String :=
  String.join ((unifiedLines (linesWithEnds a) (linesWithEnds b) fromName toName 5).map fun l =>
    if l.endsWith "\n" then l else l ++ "\n" ++ "\\ No newline at end of file\n")

end Blueprints.Text
