import Blueprints.Cli.Cache

namespace Blueprints.Cli
open Build

/-- The present, as secrets record the time they were stored. -/
def storedAt : String := "Monday, 01. January 2024 12:00AM"

/-- Applies a change to the local store; a change the store refuses stops the command. -/
def changeSecrets (change : SecretStore Crypto.Sealed -> Except Fault (SecretStore Crypto.Sealed)) :
    Build Unit := do
  let secrets <- MonadExcept.ofExcept (change (<- get).secretStore)
  modify fun s => { s with secretStore := secrets }

/-- Stores a secret under a name that holds none yet; a name in use is reported. -/
def storeSecret (name value : String) : Build Unit := do
  if (<- get).secretStore.stored name then
    logError ("Secret " ++ name ++ " already present !!!")
    return
  let uuid <- Build.freshId
  changeSecrets (·.create Cipher.aesGcm name uuid value)
  logInfo (highlight ("Secret " ++ name ++ " created"))

def createSecret (values : ParamValues) : Build Unit :=
  storeSecret (textValue values "name") (textValue values "value")

def listSecrets (values : ParamValues) : Build Unit := do
  let secrets := (<- get).secretStore.secrets
  if secrets.isEmpty then
    print "No secret found !!!\n\n"
    return
  if flagValue values "quiet" then
    for s in secrets do print (s.name ++ "\n")
    return
  let headers := ["NAME", "CREATED ON", "LAST UPDATED", "UUID"]
  let rows := secrets.map fun s => [s.name, storedAt, CacheTable.updatedAgo, s.uuid]
  let grid : Text.Grid := { headers, rows }
  print (grid.render ++ "\n")

def deleteSecret (values : ParamValues) : Build Unit := do
  let name := textValue values "name"
  if !(<- get).secretStore.stored name then
    logError ("Secret " ++ name ++ " not present !!!")
    return
  logInfo ("Deleting secret " ++ name)
  changeSecrets (·.delete name)

def updateSecret (values : ParamValues) : Build Unit := do
  let name := textValue values "name"
  if !(<- get).secretStore.stored name then
    logError ("Secret " ++ name ++ " not present !!!")
    return
  logInfo ("Updating secret " ++ name)
  changeSecrets (·.update Cipher.aesGcm name (textValue values "value"))

def clearSecrets : Build Unit := do
  logInfo "Clearing the secrets"
  modify fun s => { s with secretStore := {} }

end Blueprints.Cli
