
namespace Blueprints.Text

/-- A binary floating-point number: `significand · 2^exponent`. -/
structure Binary where
  significand : Nat
  exponent : Int
deriving Repr, Inhabited, DecidableEq

/-- The number of binary digits of a number; zero has none. -/
def bitLength (n : Nat) : Nat := if n = 0 then 0 else Nat.log2 n + 1

/-- The quotient of two numbers rounded to the nearest integer, ties to the even one. -/
def divRoundEven (a b : Nat) : Nat :=
  let q := a / b
  let r := a % b
  if 2 * r > b || (2 * r == b && q % 2 == 1) then q + 1 else q

/-- `a / b` scaled by `2^k`, as a ratio of natural numbers. -/
def scaledRatio (a b : Nat) (k : Int) : Nat × Nat :=
  if k ≥ 0 then (a * Nat.pow 2 k.toNat, b) else (a, b * Nat.pow 2 (-k).toNat)

/-- The number with a 53-bit significand nearest to `a / b`. -/
def nearestBinary (a b : Nat) : Binary :=
  if a = 0 || b = 0 then ⟨0, 0⟩
  else
    -- the scale that puts the quotient in [2^52, 2^53), found among the three around the
    -- estimate from the lengths of the numbers
    let estimate : Int := 53 - ((bitLength a : Int) - (bitLength b : Int))
    let fits (k : Int) : Bool :=
      let (n, d) := scaledRatio a b k
      Nat.pow 2 52 ≤ n / d && n / d < Nat.pow 2 53
    let k := if fits (estimate - 1) then estimate - 1 else if fits estimate then estimate
      else estimate + 1
    let (n, d) := scaledRatio a b k
    let m := divRoundEven n d
    if m = Nat.pow 2 53 then ⟨Nat.pow 2 52, 1 - k⟩ else ⟨m, -k⟩

/-- A binary number multiplied by a count, rounded back to a 53-bit significand. -/
def Binary.scale (x : Binary) (c : Nat) : Binary :=
  let m := x.significand * c
  let extra := bitLength m - 53
  if bitLength m ≤ 53 then ⟨m, x.exponent⟩
  else
    let r := divRoundEven m (Nat.pow 2 extra)
    if r = Nat.pow 2 53 then ⟨Nat.pow 2 52, x.exponent + extra + 1⟩ else ⟨r, x.exponent + extra⟩

/-- A number written with `places` digits after the point, rounded to the nearest, ties to
    even. -/
def Binary.fixed (x : Binary) (places : Nat) : String :=
  let scaled := x.significand * Nat.pow 10 places
  let n := if x.exponent ≥ 0 then scaled * Nat.pow 2 x.exponent.toNat
    else divRoundEven scaled (Nat.pow 2 (-x.exponent).toNat)
  let whole := n / Nat.pow 10 places
  let frac := toString (n % Nat.pow 10 places)
  if places = 0 then toString whole
  else toString whole ++ "." ++ String.ofList (List.replicate (places - frac.length) '0') ++ frac

/-- The share of `done` in `total` as a percentage with two places: `done / total * 100`. -/
def percentText (done total : Nat) : String :=
  ((nearestBinary done total).scale 100).fixed 2

end Blueprints.Text
