
namespace Blueprints.Text

/-- The longest run that `a[alo:ahi]` and `b[blo:bhi]` share: where it starts in each and how
    long it is. Among runs of the same length the one that starts first in `a`, then first in
    `b`, is chosen. -/
def longestRun (a b : Array Char) (alo ahi blo bhi : Nat) : Nat × Nat × Nat :=
  let start : (Nat × Nat × Nat) × Array Nat := ((alo, blo, 0), Array.replicate (b.size + 1) 0)
  let (best, _) := (List.range (ahi - alo)).foldl (fun acc di =>
    let i := alo + di
    let (best, prev) := acc
    let (best, next) := (List.range (bhi - blo)).foldl (fun acc2 dj =>
      let j := blo + dj
      let (best, next) := acc2
      if a.getD i ' ' == b.getD j ' ' && i < a.size && j < b.size then
        let k := (if j > blo then prev.getD (j - 1) 0 else 0) + 1
        let next := next.set! j k
        if k > best.2.2 then ((i + 1 - k, j + 1 - k, k), next) else (best, next)
      else (best, next)) (best, Array.replicate (b.size + 1) 0)
    (best, next)) start
  best

/-- How many characters the matching runs of `a[alo:ahi]` and `b[blo:bhi]` hold: the longest
    run, then the runs on either side of it. -/
def matchedChars (a b : Array Char) : Nat -> Nat -> Nat -> Nat -> Nat -> Nat
  | 0, _, _, _, _ => 0
  | fuel + 1, alo, ahi, blo, bhi =>
    let (i, j, k) := longestRun a b alo ahi blo bhi
    if k == 0 then 0
    else
      let left := if alo < i && blo < j then matchedChars a b fuel alo i blo j else 0
      let right := if i + k < ahi && j + k < bhi then
          matchedChars a b fuel (i + k) ahi (j + k) bhi
        else 0
      k + left + right

/-- The likeness of two words as a fraction: twice the matched characters over both lengths. -/
def likeness (a b : String) : Nat × Nat :=
  let aa := a.toList.toArray
  let bb := b.toList.toArray
  let total := aa.size + bb.size
  if total == 0 then (1, 1)
  else (2 * matchedChars aa bb (aa.size + 1) 0 aa.size 0 bb.size, total)

/-- Whether one fraction is below another. -/
def fractionLt (x y : Nat × Nat) : Bool := x.1 * y.2 < y.1 * x.2

/-- Whether a candidate ranks before another: a higher likeness, or the same and a word that
    sorts later. -/
def ranksBefore (x y : (Nat × Nat) × String) : Bool :=
  fractionLt y.1 x.1 || (!fractionLt x.1 y.1 && decide (y.2 < x.2))

/-- Inserts a candidate into a ranked list. -/
def insertRanked (x : (Nat × Nat) × String) : List ((Nat × Nat) × String) ->
    List ((Nat × Nat) × String)
  | [] => [x]
  | y :: ys => if ranksBefore x y then x :: y :: ys else y :: insertRanked x ys

/-- The known words most like `word`, at most `count` of them, whose likeness reaches the
    cutoff `num / den`. -/
def closeMatches (word : String) (known : List String) (count num den : Nat) : List String :=
  let ranked := known.foldl (fun acc w =>
    let r := likeness w word
    if r.1 * den ≥ num * r.2 then insertRanked (r, w) acc else acc) []
  (ranked.take count).map (·.2)

end Blueprints.Text
