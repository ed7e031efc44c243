import Blueprints.Crypto.Sha256

namespace Blueprints.Crypto

@[inline] def rotl (x : UInt32) (n : UInt32) : UInt32 := (x <<< n) ||| (x >>> (32 - n))

/-- The four steps of one quarter round of Salsa20 on positions `a b c d`. -/
@[inline] def quarterRound (s : Array UInt32) (a b c d : Nat) : Array UInt32 :=
  let s := s.set! b (s[b]! ^^^ rotl (s[a]! + s[d]!) 7)
  let s := s.set! c (s[c]! ^^^ rotl (s[b]! + s[a]!) 9)
  let s := s.set! d (s[d]! ^^^ rotl (s[c]! + s[b]!) 13)
  s.set! a (s[a]! ^^^ rotl (s[d]! + s[c]!) 18)

/-- A column round followed by a row round. -/
def doubleRound (s : Array UInt32) : Array UInt32 :=
  let s := quarterRound s 0 4 8 12
  let s := quarterRound s 5 9 13 1
  let s := quarterRound s 10 14 2 6
  let s := quarterRound s 15 3 7 11
  let s := quarterRound s 0 1 2 3
  let s := quarterRound s 5 6 7 4
  let s := quarterRound s 10 11 8 9
  quarterRound s 15 12 13 14

/-- The Salsa20/8 core on sixteen words: four double rounds, then the input added back. -/
def salsa8 (input : Array UInt32) : Array UInt32 := Id.run do
  let mut s := input
  for _ in [0:4] do
    s := doubleRound s
  for i in [0:16] do
    s := s.set! i (s[i]! + input[i]!)
  return s

/-- The block mix of `2r` blocks of sixteen words: each block is mixed into a running block, and
    the even results come before the odd ones. -/
def blockMix (r : Nat) (b : Array UInt32) : Array UInt32 := Id.run do
  let mut x := b.extract (16 * (2 * r - 1)) (16 * (2 * r))
  let mut evens : Array UInt32 := Array.mkEmpty (16 * r)
  let mut odds : Array UInt32 := Array.mkEmpty (16 * r)
  for i in [0:2 * r] do
    let mut t := x
    for j in [0:16] do
      t := t.set! j (t[j]! ^^^ b[16 * i + j]!)
    x := salsa8 t
    if i % 2 == 0 then evens := evens ++ x else odds := odds ++ x
  return evens ++ odds

/-- The memory-hard mix of `32 r` words over `n` stored blocks. -/
def roMix (r n : Nat) (b : Array UInt32) : Array UInt32 := Id.run do
  let width := 32 * r
  let mut x := b
  let mut v : Array UInt32 := Array.mkEmpty (n * width)
  for _ in [0:n] do
    v := v ++ x
    x := blockMix r x
  for _ in [0:n] do
    let j := (x[width - 16]!).toNat % n
    let mut t := x
    for k in [0:width] do
      t := t.set! k (t[k]! ^^^ v[j * width + k]!)
    x := blockMix r t
  return x

/-- The little-endian words of a byte string. -/
def wordsLE (b : ByteArray) : Array UInt32 := Id.run do
  let mut out : Array UInt32 := Array.mkEmpty (b.size / 4)
  for i in [0:b.size / 4] do
    out := out.push (b[4 * i]!.toUInt32 ||| (b[4 * i + 1]!.toUInt32 <<< 8) |||
      (b[4 * i + 2]!.toUInt32 <<< 16) ||| (b[4 * i + 3]!.toUInt32 <<< 24))
  return out

def bytesLE (w : Array UInt32) : ByteArray := Id.run do
  let mut out := ByteArray.emptyWithCapacity (4 * w.size)
  for x in w do
    out := out.push x.toUInt8 |>.push (x >>> 8).toUInt8 |>.push (x >>> 16).toUInt8
      |>.push (x >>> 24).toUInt8
  return out

/-- The scrypt key of `len` bytes for a password and a salt, with cost `n`, block size `r` and
    parallelism `p`. -/
def scrypt (password salt : ByteArray) (n r p len : Nat) : ByteArray := Id.run do
  let blockBytes := 128 * r
  let b := pbkdf2Once password salt (p * blockBytes)
  let mut mixed := ByteArray.empty
  for i in [0:p] do
    let chunk := b.extract (i * blockBytes) ((i + 1) * blockBytes)
    mixed := mixed ++ bytesLE (roMix r n (wordsLE chunk))
  return pbkdf2Once password mixed len

end Blueprints.Crypto
