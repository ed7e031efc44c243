import Blueprints.Library.Builtin
import Blueprints.Text.Version

namespace Blueprints.Kinds
open Build

/-- Whether a compiled value is empty: absent, or an empty text, list or dictionary. -/
def isEmptyValue (v : Value) : Bool := !v.truthy

def dropEmpty (d : Doc) (key : String) : Build Doc :=
  if isEmptyValue (d.field key) then
    if d.any (·.1 == key) then pure (d.remove key) else throw (.missingKey ("'" ++ key ++ "'"))
  else pure d

def dictRemove (v : Value) (key : String) : Build Value :=
  match v with
  | .dict entries =>
    if entries.any (·.1.isText key) then pure (.dict (entries.filter fun (k, _) => !k.isText key))
    else throw (.missingKey ("'" ++ key ++ "'"))
  | _ => throw (.wrongType "object does not support item deletion")

/-- The value of a key of a compiled dictionary value, or `dflt`. -/
def entryOr (v : Value) (key : String) (dflt : Value) : Value :=
  match v with
  | .dict entries => (Library.dictGet? entries key).getD dflt
  | _ => dflt

def compileVariable (r : Runtime) (e : Entity) : Build Doc := do
  let mut d <- compileGeneric r e
  d <- dropEmpty d "options"
  d <- dropEmpty d "regex"
  d <- dropEmpty d "editables"
  let options := d.field "options"
  if options.truthy then
    let type_ : Value := match options with
      | .dict entries => ((entries.find? fun (k, _) => k.isText "type").map (·.2)).getD Value.none
      | _ => Value.none
    let options' <- if type_.isText "PREDEFINED" then dictRemove options "attrs"
      else dictRemove options "choices"
    d := d.put "options" options'
  pure d

def compileTask (r : Runtime) (e : Entity) : Build Doc := do
  let mut d <- compileGeneric r e
  if !(d.field "target_any_local_reference").truthy then d := d.remove "target_any_local_reference"
  if !(d.field "exec_target_reference").truthy then d := d.remove "exec_target_reference"
  pure d

def compileCredential (r : Runtime) (e : Entity) : Build Doc := do
  let mut d <- compileGeneric r e
  d := d.remove "default"
  if (d.field "type").isText "PASSWORD" then d := d.remove "passphrase"
  pure d

/-- A runbook service's compiled dictionary. -/
def compileRunbookService (r : Runtime) (e : Entity) : Build Doc := do
  let mut d <- compileGeneric r e
  if !(d.field "default_target_reference").truthy then d := d.remove "default_target_reference"
  pure d

/-- `v[key]` for a value that a compiled dictionary holds: a dictionary's entry, or the entry of
    the dictionary that a reference class compiles to. -/
def itemOf (r : Runtime) (v : Value) (key : String) : Build Value := do
  match v with
  | .dict entries =>
    match Library.dictGet? entries key with
    | some x => pure x
    | none => throw (.missingKey ("'" ++ key ++ "'"))
  | .entity e =>
    if e.kind == .calmRef then
      let d <- r.compile [] e
      match d.field? key with
      | some x => pure x
      | none => throw (.missingKey ("'" ++ key ++ "'"))
    else throw v.notSubscriptable
  | v => throw v.notSubscriptable

/-- An endpoint's compiled dictionary: an empty provider or value type is left out; for servers
    older than 3.2.0 the value type moves into the attributes, and a virtual-machine endpoint
    names the provider of its account, which must be a Nutanix PC or VMware account. -/
def compileEndpoint (r : Runtime) (e : Entity) : Build Doc := do
  let mut d <- compileGeneric r e
  if (d.field? "provider_type").getD (.str "") |>.isText "" then d := d.remove "provider_type"
  if (d.field? "value_type").getD (.str "") |>.isText "" then d := d.remove "value_type"
  if Text.versionLt (<- get).version "3.2.0" then
    let some valueType := d.field? "value_type" | throw (.missingKey "'value_type'")
    d := d.remove "value_type"
    let attrs <- match d.field? "attrs" with
      | some (.dict entries) => pure entries
      | _ => throw (.missingKey "'attrs'")
    d := d.put "attrs" (.dict (Library.dictPut attrs "value_type" valueType))
  else
    let valueType := (d.field? "value_type").getD (.str "IP")
    if valueType.isText "VM" then
      let attrs <- match d.field? "attrs" with
        | some a => pure a
        | none => throw (.missingKey "'attrs'")
      let account <- itemOf r attrs "account_reference"
      let name <- itemOf r account "name"
      match (<- get).cache.account? name.toText with
      | none => exitWith ("Account " ++ name.toText ++ " not found")
      | some acc =>
        if acc.providerType != "nutanix_pc" && acc.providerType != "vmware" then
          exitWith ("Provider " ++ acc.providerType ++ " not supported for endpoints")
        d := d.put "provider_type" (.str acc.providerType.toUpper)
  pure d

end Blueprints.Kinds
