
namespace Blueprints.Text

/-- The ranges that a text of steps describes: the steps, decimal numbers apart by single spaces,
    alternate between the gap from the end of one range (from 0 for the first) to the start of
    the next and the range's length less one, so `"65 25 7 25"` gives `(65, 90)` and `(97, 122)`. -/
def rangesOfSteps (steps : String) : Array (Nat × Nat) :=
  go (numbers steps.toList 0) 0 #[]
where
  numbers : List Char -> Nat -> List Nat
  | [], n => [n]
  | ' ' :: cs, n => n :: numbers cs 0
  | c :: cs, n => numbers cs (10 * n + (c.toNat - 48))
  go : List Nat -> Nat -> Array (Nat × Nat) -> Array (Nat × Nat)
  | gap :: len :: rest, last, acc =>
    go rest (last + gap + len) (acc.push (last + gap, last + gap + len))
  | _, _, acc => acc

/-- Code point ranges, inclusive and ascending, of the characters that may begin an identifier. -/
def startRanges : Array (Nat × Nat) := rangesOfSteps (
  "65 25 7 25 48 0 11 0 5 0 6 22 2 30 2 457 5 11 15 4 8 0 2 0 130 4 2 1 4 2 2 0 7 0 2 2 2 0 2 19 2 " ++
  "82 2 138 9 165 2 37 3 0 7 40 72 26 5 3 46 42 36 1 2 98 2 0 16 1 8 1 11 2 3 0 17 0 2 29 30 88 12 " ++
  "0 25 32 10 1 5 0 6 21 5 0 10 0 4 0 24 24 8 10 6 23 2 5 18 41 59 53 4 0 19 0 8 9 16 15 5 7 3 1 3 " ++
  "21 2 6 2 0 4 3 4 0 17 0 14 1 2 2 15 1 11 0 9 5 5 1 3 21 2 6 2 1 2 1 2 1 32 3 2 0 20 2 17 8 2 2 2 " ++
  "21 2 6 2 1 2 4 4 0 19 0 16 1 24 0 12 7 3 1 3 21 2 6 2 1 2 4 4 0 31 1 2 2 16 0 18 0 2 5 4 2 2 3 4 " ++
  "1 2 0 2 1 4 1 4 2 4 11 23 0 53 7 2 2 2 22 2 15 4 0 27 2 3 0 3 1 31 0 5 7 2 2 2 22 2 9 2 4 4 0 32 " ++
  "1 2 1 16 1 18 8 2 2 2 40 3 0 17 0 6 2 9 2 25 5 6 17 4 23 2 8 2 0 3 6 59 47 2 0 14 6 59 1 2 0 2 4 " ++
  "2 23 2 0 2 9 2 0 11 0 3 4 2 0 22 3 33 0 64 7 2 35 28 4 116 42 21 0 17 5 5 3 4 0 4 1 8 2 5 12 13 " ++
  "0 18 37 2 0 6 0 3 42 2 332 2 3 3 6 2 0 2 3 3 40 2 3 3 32 2 3 3 6 2 0 2 3 3 14 2 56 2 3 3 66 38 " ++
  "15 17 85 3 5 4 619 3 16 2 25 6 74 4 10 8 17 14 18 15 17 15 12 2 2 16 51 36 0 5 0 68 88 8 40 2 0 " ++
  "6 69 11 30 50 29 3 4 12 43 5 25 55 22 10 52 83 0 94 46 18 7 55 29 14 1 11 43 27 35 42 2 11 35 3 " ++
  "8 8 42 3 2 42 3 2 5 2 1 4 0 6 191 65 277 3 5 3 37 3 5 3 7 2 0 2 0 2 0 2 30 3 52 2 6 2 0 4 2 2 6 " ++
  "4 3 3 5 5 12 6 2 2 6 117 0 14 0 17 12 102 0 5 0 3 9 2 0 3 5 7 0 2 0 2 0 2 15 3 3 6 4 5 0 18 40 " ++
  "2680 228 7 3 4 1 13 37 2 0 6 0 3 55 8 0 17 22 10 6 2 6 2 6 2 6 2 6 2 6 2 6 2 6 551 2 26 8 8 4 3 " ++
  "4 5 85 7 2 2 89 2 3 6 42 2 93 18 31 49 15 513 6591 65 22156 68 45 3 268 4 15 11 1 21 46 17 30 3 " ++
  "79 40 8 3 102 3 63 6 1 2 0 2 4 25 15 2 2 2 3 2 22 30 51 15 49 63 5 4 0 2 1 12 27 11 22 26 28 8 " ++
  "46 29 0 17 4 2 9 11 4 2 40 24 2 2 7 21 22 4 0 4 49 2 0 4 1 3 4 3 0 2 0 25 2 3 10 8 2 13 5 3 5 3 " ++
  "5 10 6 2 6 2 42 2 13 7 114 30 11171 13 22 5 48 8453 365 3 105 39 6 13 4 6 0 2 9 2 12 2 4 2 0 2 1 " ++
  "2 1 2 107 34 138 7 217 19 63 3 53 41 9 120 0 2 0 4 0 2 0 2 0 2 0 2 125 37 25 7 25 12 55 3 30 4 5 " ++
  "3 5 3 5 3 2 36 11 2 25 2 18 2 1 2 14 3 13 35 122 70 52 268 28 4 48 48 31 14 29 6 37 11 29 3 35 5 " ++
  "7 2 4 43 157 19 35 5 35 5 39 9 51 13 10 2 14 2 6 2 1 2 10 2 14 2 6 2 1 68 310 10 21 11 7 25 5 2 " ++
  "41 2 8 70 5 3 0 2 43 2 1 4 0 3 22 11 22 10 30 66 18 2 1 11 21 11 25 71 55 7 1 65 0 16 3 2 2 2 28 " ++
  "43 28 4 28 36 7 2 27 28 53 11 21 11 18 14 17 111 72 56 50 14 50 14 35 349 41 7 1 79 28 11 0 9 21 " ++
  "43 17 47 20 28 22 13 52 58 1 3 0 14 44 33 24 27 35 30 0 3 0 9 34 4 0 13 47 15 3 22 0 2 0 36 17 2 " ++
  "24 85 6 2 0 2 3 2 14 2 9 8 46 39 7 3 1 3 21 2 6 2 1 2 4 4 0 19 0 13 4 159 52 19 3 21 2 31 47 21 " ++
  "1 2 0 185 46 42 3 37 47 21 0 60 42 14 0 72 26 38 6 186 43 117 63 32 7 3 0 3 7 2 1 2 23 16 0 2 0 " ++
  "95 7 3 38 17 0 2 0 29 0 11 39 8 0 22 0 12 45 20 0 19 72 264 8 2 36 18 0 50 29 113 6 2 1 2 37 22 " ++
  "0 26 5 2 1 2 31 15 0 328 18 190 0 80 921 103 110 18 195 2637 96 16 1070 4050 582 8634 568 8 30 " ++
  "18 78 18 29 19 47 17 3 32 20 6 18 689 63 129 74 6 0 67 12 65 1 2 0 29 6135 9 1237 43 8 8936 3 2 " ++
  "6 2 1 2 290 46 2 18 3 9 395 2309 106 6 12 4 8 8 9 5991 84 2 70 2 1 3 0 3 1 3 3 2 11 2 0 2 6 2 64 " ++
  "2 3 3 7 2 6 2 27 2 3 2 4 2 0 4 6 2 339 3 24 2 24 2 30 2 24 2 30 2 24 2 30 2 24 2 30 2 24 2 7 " ++
  "1845 30 482 44 11 6 17 0 322 29 19 43 1269 6 2 3 2 1 2 14 2 196 60 67 8 0 1205 3 2 26 2 1 2 0 3 " ++
  "0 2 9 2 3 2 0 2 0 7 0 5 0 2 0 2 0 2 2 2 1 2 0 3 0 2 0 2 0 2 0 2 0 2 1 2 0 3 3 2 6 2 3 2 3 2 0 2 " ++
  "9 2 16 6 2 2 4 2 16 4421 42719 33 4152 8 221 3 5761 15 7472 3104 541 1507 4938")

/-- Code point ranges, inclusive and ascending, of the characters that may continue an
    identifier but not begin one: digits, combining marks and connectors among them. -/
def continueOnlyRanges : Array (Nat × Nat) := rangesOfSteps (
  "48 9 38 0 88 0 585 111 24 0 252 4 266 44 2 0 2 1 2 1 2 0 73 10 49 30 7 0 102 6 3 5 3 1 2 3 3 9 " ++
  "24 0 31 26 92 10 16 9 34 8 10 0 25 3 2 8 2 2 2 4 44 2 61 7 43 23 2 32 55 2 2 17 2 6 11 1 3 9 18 " ++
  "2 57 0 2 6 3 1 3 2 10 0 11 1 3 9 15 0 3 2 57 0 2 4 5 1 3 2 4 0 21 11 4 0 12 2 57 0 2 7 2 2 2 2 " ++
  "21 1 3 9 11 5 2 2 57 0 2 6 3 1 3 2 8 2 11 1 3 9 19 0 60 4 4 2 2 3 10 0 15 9 17 4 56 0 2 6 2 2 2 " ++
  "3 8 1 12 1 3 9 18 2 57 0 2 6 2 2 2 3 8 1 12 1 3 9 17 3 56 1 2 6 2 2 2 3 10 0 11 1 3 9 18 2 71 0 " ++
  "5 5 2 0 2 7 7 9 3 1 62 0 2 7 13 7 2 9 88 0 2 9 12 5 3 9 63 1 7 9 12 0 2 0 2 0 5 1 50 19 2 1 6 10 " ++
  "2 35 10 0 101 19 2 9 13 3 5 2 2 2 3 6 4 3 14 11 2 14 704 2 10 8 929 3 29 2 30 1 31 1 65 31 10 0 " ++
  "3 9 34 2 2 10 144 0 119 11 5 11 11 9 129 10 61 4 58 9 2 28 3 10 7 9 23 13 2 15 50 4 48 16 12 9 " ++
  "18 8 13 2 31 12 3 9 45 13 49 19 9 9 7 9 119 2 2 20 5 0 7 0 3 2 199 63 576 1 20 0 124 12 5 0 4 11 " ++
  "3071 2 142 0 97 31 555 5 106 1 30086 9 70 0 5 9 33 1 81 1 273 0 4 0 5 0 24 4 5 0 84 1 51 17 11 9 " ++
  "7 17 14 10 29 7 26 12 45 3 48 13 16 9 12 0 11 9 48 13 13 0 9 1 3 9 34 2 51 0 2 2 3 1 6 1 2 0 42 " ++
  "4 6 1 237 7 2 1 3 9 20261 0 738 15 17 15 4 1 25 2 193 9 38 0 95 1 606 0 227 0 150 4 294 9 1368 2 " ++
  "2 1 6 3 41 2 5 0 166 1 574 3 9 9 370 1 154 10 50 3 123 2 54 14 32 10 3 1 11 3 46 10 8 0 46 9 7 2 " ++
  "37 13 2 9 6 1 45 0 13 2 49 13 9 3 2 11 83 11 7 0 161 11 6 9 7 3 56 1 2 6 3 1 3 2 10 0 11 1 3 6 4 " ++
  "4 193 17 10 9 5 0 82 19 13 9 214 6 3 8 28 1 83 16 16 9 82 12 9 9 84 14 5 9 243 14 166 9 71 5 2 1 " ++
  "3 3 2 0 2 1 13 9 120 6 3 6 4 0 29 9 41 6 2 3 9 0 10 10 47 15 406 7 2 7 17 9 57 21 2 13 123 5 4 0 " ++
  "2 1 2 6 2 0 9 9 49 4 2 1 2 4 9 9 330 3 19306 9 87 9 39 4 60 6 26 9 1014 0 2 54 8 3 82 0 12 1 " ++
  "19628 1 4706 45 3 22 543 4 4 5 9 7 3 6 31 3 149 2 1418 49 513 54 5 49 9 0 15 0 23 4 2 14 1361 6 " ++
  "2 16 3 6 2 1 2 4 262 6 10 9 357 0 62 13 1495 6 110 6 6 9 4759 9 787719 239")

/-- Whether a code point lies in one of the inclusive ranges. -/
def inRanges (ranges : Array (Nat × Nat)) (n : Nat) : Bool :=
  ranges.any fun r => r.1 ≤ n && n ≤ r.2

/-- Whether a character may begin an identifier (the underscore apart). -/
def isIdentStart (c : Char) : Bool := inRanges startRanges c.toNat

/-- Whether a character may stand after the first one in an identifier. -/
def isIdentContinue (c : Char) : Bool :=
  inRanges startRanges c.toNat || inRanges continueOnlyRanges c.toNat

/-- The keywords of the language, which never name a value or a class. -/
def keywords : List String :=
  ["False", "None", "True", "and", "as", "assert", "async", "await", "break", "class",
   "continue", "def", "del", "elif", "else", "except", "finally", "for", "from", "global", "if",
   "import", "in", "is", "lambda", "nonlocal", "not", "or", "pass", "raise", "return", "try",
   "while", "with", "yield"]

end Blueprints.Text
