import Blueprints.Crypto.Aes

namespace Blueprints.Crypto

/-- A block of 16 bytes as a number, first byte most significant. -/
def blockToNat (b : ByteArray) : Nat :=
  b.foldl (fun acc x => acc * 256 + x.toNat) 0

/-- A number below `2 ^ 128` as a block of 16 bytes. -/
def natToBlock (n : Nat) : ByteArray :=
  ByteArray.mk ((List.range 16).map fun i => UInt8.ofNat (n / Nat.pow 256 (15 - i) % 256)).toArray

/-- Multiplication in the field of `2 ^ 128` elements, in the bit order that GHASH uses. -/
def gfMul (x y : Nat) : Nat := Id.run do
  let r : Nat := 0xE1 * Nat.pow 2 120
  let mut z := 0
  let mut v := y
  for i in [0:128] do
    if (x / Nat.pow 2 (127 - i)) % 2 == 1 then z := z ^^^ v
    v := if v % 2 == 1 then (v / 2) ^^^ r else v / 2
  return z

/-- The GHASH of a byte string under the hash key `h`, the string padded with zeros to whole
    blocks. -/
def ghash (h : Nat) (data : ByteArray) : Nat := Id.run do
  let mut y := 0
  for i in [0:(data.size + 15) / 16] do
    let chunk := data.extract (16 * i) (16 * i + 16)
    let blk := chunk ++ ByteArray.mk (Array.replicate (16 - chunk.size) 0)
    y := gfMul (y ^^^ blockToNat blk) h
  return y

/-- The 64-bit big-endian encoding of a number. -/
def be64 (n : Nat) : ByteArray :=
  ByteArray.mk ((List.range 8).map fun i => UInt8.ofNat (n / Nat.pow 256 (7 - i) % 256)).toArray

/-- The counter block with its last 32 bits increased by one. -/
def inc32 (n : Nat) : Nat :=
  (n / Nat.pow 2 32) * Nat.pow 2 32 + (n % Nat.pow 2 32 + 1) % Nat.pow 2 32

/-- Counter mode: each 16-byte piece of the text is XORed with the encryption of the next
    counter block. -/
def gctr (keys : ByteArray) (icb : Nat) (text : ByteArray) : ByteArray := Id.run do
  let mut out := ByteArray.emptyWithCapacity text.size
  let mut cb := icb
  for i in [0:(text.size + 15) / 16] do
    let ks := encryptBlock keys (natToBlock cb)
    for j in [16 * i:min text.size (16 * i + 16)] do
      out := out.push (text[j]! ^^^ ks[j - 16 * i]!)
    cb := inc32 cb
  return out

/-- The pre-counter block of a nonce under the hash key `h`. -/
def preCounter (h : Nat) (nonce : ByteArray) : Nat :=
  if nonce.size == 12 then blockToNat (nonce ++ ByteArray.mk #[0, 0, 0, 1])
  else
    let fill := (16 - nonce.size % 16) % 16 + 8
    ghash h (nonce ++ ByteArray.mk (Array.replicate fill 0) ++ be64 (8 * nonce.size))

def gcmTag (keys : ByteArray) (h j0 : Nat) (cipher : ByteArray) : ByteArray :=
  let s := ghash h (cipher ++ ByteArray.mk (Array.replicate ((16 - cipher.size % 16) % 16) 0) ++
    be64 0 ++ be64 (8 * cipher.size))
  gctr keys j0 (natToBlock s)

/-- Encrypts a text under a key and a nonce: the ciphertext and its tag. -/
def gcmEncrypt (key nonce plain : ByteArray) : ByteArray × ByteArray :=
  let keys := expandKey key
  let h := blockToNat (encryptBlock keys (ByteArray.mk (Array.replicate 16 0)))
  let j0 := preCounter h nonce
  let cipher := gctr keys (inc32 j0) plain
  (cipher, gcmTag keys h j0 cipher)

/-- Decrypts a ciphertext whose tag must match; `none` when it does not. -/
def gcmDecrypt (key nonce cipher tag : ByteArray) : Option ByteArray :=
  let keys := expandKey key
  let h := blockToNat (encryptBlock keys (ByteArray.mk (Array.replicate 16 0)))
  let j0 := preCounter h nonce
  if (gcmTag keys h j0 cipher).data == tag.data then some (gctr keys (inc32 j0) cipher)
  else none

end Blueprints.Crypto
