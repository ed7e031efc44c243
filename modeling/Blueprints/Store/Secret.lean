import Blueprints.Fault
import Blueprints.Crypto.Seal

namespace Blueprints

/-- How the local store seals a value under a pass phrase, into data of type `σ`, and opens such
    data again under a pass phrase: `decrypt` gives the text back, or nothing when the pass phrase
    or the data do not match. -/
structure Cipher (σ : Type) where
  encrypt : String → String → σ
  decrypt : σ → String → Option String

/-- AES-GCM under a key that scrypt draws from the pass phrase. The store draws the salt and the
    nonce at random and keeps them beside the ciphertext, and opening reads them from there, so
    fixed ones change nothing that is shown. -/
def Cipher.aesGcm : Cipher Crypto.Sealed where
  encrypt value passPhrase :=
    Crypto.sealText value passPhrase (ByteArray.mk (Array.replicate 16 0))
      (ByteArray.mk (Array.replicate 16 0))
  decrypt := Crypto.openSealed

/-- A row of the secret table, keyed by the name. -/
structure SecretRow where
  name : String
  uuid : String
deriving Repr, Inhabited

/-- A row of the data table: the sealed value of the secret `secretRef` names, and the pass
    phrase it is sealed under. -/
structure DataRow (σ : Type) where
  secretRef : String
  sealed : σ
  passPhrase : String

/-- The local store of secrets: the secret table and the data table that refers to it. -/
structure SecretStore (σ : Type) where
  secrets : List SecretRow := []
  data : List (DataRow σ) := []

instance {σ : Type} : Inhabited (SecretStore σ) := ⟨{}⟩

namespace SecretStore

variable {σ : Type} (c : Cipher σ)

/-- Whether a secret of that name is stored. -/
def stored (store : SecretStore σ) (name : String) : Bool := store.secrets.any (·.name == name)

def lookup (store : SecretStore σ) (name : String) : Except Fault SecretRow :=
  match store.secrets.find? (·.name == name) with
  | some s => .ok s
  | none => .error (.badValue "Entity not found !!!")

/-- The first data row that refers to a secret. -/
def dataOf (store : SecretStore σ) (name : String) : Except Fault (DataRow σ) :=
  match store.data.find? (·.secretRef == name) with
  | some d => .ok d
  | none => .error (.outOfRange "list index out of range")

/-- Stores a new secret, its value sealed under the pass phrase; a name the store holds already
    is refused by the secret table's key. -/
def create (store : SecretStore σ) (name uuid value : String)
    (passPhrase : String := "dslp4ssw0rd") : Except Fault (SecretStore σ) :=
  if stored store name then
    .error (.system "IntegrityError" "UNIQUE constraint failed: secrettable.name")
  else .ok { secrets := store.secrets ++ [⟨name, uuid⟩],
             data := store.data ++ [⟨name, c.encrypt value passPhrase, passPhrase⟩] }

/-- Seals a new value under the pass phrase of the secret's first data row, in every data row of
    the secret. -/
def update (store : SecretStore σ) (name value : String) : Except Fault (SecretStore σ) := do
  let _ <- lookup store name
  let d <- dataOf store name
  pure { store with data := store.data.map fun e =>
    if e.secretRef == name then { e with sealed := c.encrypt value d.passPhrase,
                                         passPhrase := d.passPhrase }
    else e }

/-- Deletes a secret with the data rows that refer to it. -/
def delete (store : SecretStore σ) (name : String) : Except Fault (SecretStore σ) := do
  let _ <- lookup store name
  pure { secrets := store.secrets.filter (·.name != name),
         data := store.data.filter (·.secretRef != name) }

/-- The value of a stored secret, opened with the pass phrase given or, when that is empty, with
    the one its first data row keeps. -/
def find (store : SecretStore σ) (name : String) (passPhrase : String := "") :
    Except Fault String := do
  let _ <- lookup store name
  let d <- dataOf store name
  match c.decrypt d.sealed (if passPhrase.isEmpty then d.passPhrase else passPhrase) with
  | some value => pure value
  | none => throw (.badValue "MAC check failed")

end SecretStore

end Blueprints
