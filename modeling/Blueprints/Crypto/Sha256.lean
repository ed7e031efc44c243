
namespace Blueprints.Crypto

def sha256K : Array UInt32 := #[
  0x428a2f98, 0x71374491, 0xb5c0fbcf, 0xe9b5dba5, 0x3956c25b, 0x59f111f1, 0x923f82a4, 0xab1c5ed5,
  0xd807aa98, 0x12835b01, 0x243185be, 0x550c7dc3, 0x72be5d74, 0x80deb1fe, 0x9bdc06a7, 0xc19bf174,
  0xe49b69c1, 0xefbe4786, 0x0fc19dc6, 0x240ca1cc, 0x2de92c6f, 0x4a7484aa, 0x5cb0a9dc, 0x76f988da,
  0x983e5152, 0xa831c66d, 0xb00327c8, 0xbf597fc7, 0xc6e00bf3, 0xd5a79147, 0x06ca6351, 0x14292967,
  0x27b70a85, 0x2e1b2138, 0x4d2c6dfc, 0x53380d13, 0x650a7354, 0x766a0abb, 0x81c2c92e, 0x92722c85,
  0xa2bfe8a1, 0xa81a664b, 0xc24b8b70, 0xc76c51a3, 0xd192e819, 0xd6990624, 0xf40e3585, 0x106aa070,
  0x19a4c116, 0x1e376c08, 0x2748774c, 0x34b0bcb5, 0x391c0cb3, 0x4ed8aa4a, 0x5b9cca4f, 0x682e6ff3,
  0x748f82ee, 0x78a5636f, 0x84c87814, 0x8cc70208, 0x90befffa, 0xa4506ceb, 0xbef9a3f7, 0xc67178f2]

def sha256Init : Array UInt32 := #[
  0x6a09e667, 0xbb67ae85, 0x3c6ef372, 0xa54ff53a, 0x510e527f, 0x9b05688c, 0x1f83d9ab, 0x5be0cd19]

@[inline] def rotr (x : UInt32) (n : UInt32) : UInt32 := (x >>> n) ||| (x <<< (32 - n))

/-- The big-endian word at byte offset `i`. -/
@[inline] def wordBE (b : ByteArray) (i : Nat) : UInt32 :=
  (b[i]!.toUInt32 <<< 24) ||| (b[i + 1]!.toUInt32 <<< 16) ||| (b[i + 2]!.toUInt32 <<< 8) |||
    b[i + 3]!.toUInt32

/-- The message schedule of the 64-byte block at offset `off`. -/
def schedule (b : ByteArray) (off : Nat) : Array UInt32 := Id.run do
  let mut w : Array UInt32 := Array.mkEmpty 64
  for i in [0:16] do
    w := w.push (wordBE b (off + 4 * i))
  for i in [16:64] do
    let s0 := rotr w[i - 15]! 7 ^^^ rotr w[i - 15]! 18 ^^^ (w[i - 15]! >>> 3)
    let s1 := rotr w[i - 2]! 17 ^^^ rotr w[i - 2]! 19 ^^^ (w[i - 2]! >>> 10)
    w := w.push (w[i - 16]! + s0 + w[i - 7]! + s1)
  return w

/-- One application of the compression function to the block at offset `off`. -/
def compress (h : Array UInt32) (b : ByteArray) (off : Nat) : Array UInt32 := Id.run do
  let w := schedule b off
  let mut a := h[0]!
  let mut bb := h[1]!
  let mut c := h[2]!
  let mut d := h[3]!
  let mut e := h[4]!
  let mut f := h[5]!
  let mut g := h[6]!
  let mut hh := h[7]!
  for i in [0:64] do
    let s1 := rotr e 6 ^^^ rotr e 11 ^^^ rotr e 25
    let ch := (e &&& f) ^^^ ((~~~e) &&& g)
    let t1 := hh + s1 + ch + sha256K[i]! + w[i]!
    let s0 := rotr a 2 ^^^ rotr a 13 ^^^ rotr a 22
    let maj := (a &&& bb) ^^^ (a &&& c) ^^^ (bb &&& c)
    let t2 := s0 + maj
    hh := g
    g := f
    f := e
    e := d + t1
    d := c
    c := bb
    bb := a
    a := t1 + t2
  return #[h[0]! + a, h[1]! + bb, h[2]! + c, h[3]! + d, h[4]! + e, h[5]! + f, h[6]! + g,
    h[7]! + hh]

/-- The message padded to whole blocks: a one bit, zeros, and the bit length. -/
def pad (msg : ByteArray) : ByteArray := Id.run do
  let len := msg.size
  let mut out := msg.push 0x80
  for _ in [0:(119 - len % 64) % 64] do
    out := out.push 0
  let bits := len * 8
  for i in [0:8] do
    out := out.push (UInt8.ofNat ((bits >>> (8 * (7 - i))) % 256))
  return out

def sha256 (msg : ByteArray) : ByteArray := Id.run do
  let p := pad msg
  let mut h := sha256Init
  for blk in [0:p.size / 64] do
    h := compress h p (64 * blk)
  let mut out := ByteArray.emptyWithCapacity 32
  for x in h do
    out := out.push (x >>> 24).toUInt8 |>.push (x >>> 16).toUInt8 |>.push (x >>> 8).toUInt8
      |>.push x.toUInt8
  return out

/-- The HMAC of a message under a key, with SHA-256. -/
def hmacSha256 (key msg : ByteArray) : ByteArray :=
  let k := if key.size > 64 then sha256 key else key
  let k := k ++ ByteArray.mk (Array.replicate (64 - k.size) 0)
  let ipad := ByteArray.mk (k.data.map (· ^^^ 0x36))
  let opad := ByteArray.mk (k.data.map (· ^^^ 0x5c))
  sha256 (opad ++ sha256 (ipad ++ msg))

/-- PBKDF2 with HMAC-SHA-256 and one iteration: `len` bytes derived from a password and a
    salt. -/
def pbkdf2Once (password salt : ByteArray) (len : Nat) : ByteArray := Id.run do
  let mut out := ByteArray.empty
  let blocks := (len + 31) / 32
  for i in [1:blocks + 1] do
    let idx := ByteArray.mk #[UInt8.ofNat (i / Nat.pow 2 24 % 256), UInt8.ofNat (i / Nat.pow 2 16 % 256),
      UInt8.ofNat (i / Nat.pow 2 8 % 256), UInt8.ofNat (i % 256)]
    out := out ++ hmacSha256 password (salt ++ idx)
  return out.extract 0 len

end Blueprints.Crypto
