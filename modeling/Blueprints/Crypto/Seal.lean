import Blueprints.Crypto.Scrypt
import Blueprints.Crypto.Gcm

namespace Blueprints.Crypto

/-- The key that seals secrets under a password and a salt. -/
def sealKey (password : String) (salt : ByteArray) : ByteArray :=
  scrypt password.toUTF8 salt 16384 8 1 32

/-- A sealed text: its salt, ciphertext, nonce and tag. -/
structure Sealed where
  salt : ByteArray
  cipher : ByteArray
  nonce : ByteArray
  tag : ByteArray

/-- Seals a text under a password with the given salt and nonce. -/
def sealText (msg password : String) (salt nonce : ByteArray) : Sealed :=
  let (cipher, tag) := gcmEncrypt (sealKey password salt) nonce msg.toUTF8
  ⟨salt, cipher, nonce, tag⟩

/-- Opens a sealed text; `none` when the password or the data do not match the tag, or the
    text is not valid UTF-8. -/
def openSealed (s : Sealed) (password : String) : Option String :=
  (gcmDecrypt (sealKey password s.salt) s.nonce s.cipher s.tag).bind String.fromUTF8?

end Blueprints.Crypto
