import Blueprints.Library.Builtin
import Blueprints.Http.Client

namespace Blueprints.Library.Credentials
open Build

/-- Makes a credential class from its attributes, named by its `name` attribute. -/
def credentialCreate (kwargs : List (String × Value)) : Build Value := do
  let name := ((kwargs.find? (·.1 == "name")).map (·.2)).getD .none
  pure (.entity (<- makeClass .credential name [] kwargs))

/-- The attributes of a credential, in the order the constructors give them. -/
def credentialAttrs (b : Bound) (secret : Value) : List (String × Value) :=
  let kw : List (String × Value) := [("type", b.get "type"), ("username", b.get "username"),
    ("secret", secret), ("name", b.get "name"), ("default", b.get "default")]
  if (b.get "editables").truthy then kw ++ [("editables", b.get "editables")] else kw

/-- A credential whose password (or key) is given, or read from a file. -/
def basicCred (b : Bound) : Build Value := do
  let filename := b.get "filename"
  let password <- if filename.truthy then do pure (Value.str (<- Build.readFile filename.toText))
    else pure (b.get "password")
  let secret := textDict [("attrs", textDict [("is_secret_modified", .bool true)]),
    ("value", password)]
  credentialCreate (credentialAttrs b secret)

/-- A credential whose value is a named secret of the server. -/
def secretCred (b : Bound) : Build Value := do
  let secret := textDict [("attrs", textDict [("is_secret_modified", .bool true)]),
    ("value", .str ""), ("secret", b.get "secret")]
  credentialCreate (credentialAttrs b secret)

/-- The value of a text key of a dictionary value, or the absent value. -/
def entryOf (v : Value) (key : String) : Value :=
  match v with
  | .dict es => (dictGet? es key).getD .none
  | _ => .none

/-- The credential attributes of a resource type on the server, with the values given laid over
    them; values left over name attributes the resource type does not have. -/
def resourceTypeVariables (r : Runtime) (resourceType given : Value) : Build Value := do
  let some rt := resourceType.entity?
    | throw (resourceType.noAttribute "compile")
  let compiled <- r.compile [] rt
  let uuid := (compiled.find? (·.1 == "uuid")).map (·.2) |>.getD .none
  let path := "api/calm/v3.0/resource_types/" ++ uuid.toText
  let outcome <- Http.Call.send { method := .get, endpoint := path }
  outcome.exitOnErrorText
  let payload <- outcome.json
  let attrs := entryOf (entryOf (entryOf payload "spec") "resources") "schema_list"
  if !attrs.truthy then exitWith "No Cred-Variables found in account"
  let mut left := match given with
    | .dict es => es
    | _ => []
  let mut declaredVars : Array Value := #[]
  for attr in <- iterate attrs do
    let mut entries := match attr with
      | .dict es => es
      | _ => []
    let name := entryOf attr "name"
    if let some v := (left.find? fun (k, _) => k.equal name).map (·.2) then
      entries := dictPut entries "value" v
      left := left.filter fun (k, _) => !k.equal name
    declaredVars := declaredVars.push (.dict (dictDrop entries "uuid"))
  if !left.isEmpty then
    logError "Variables '\x7b\x7d' not found in account cred-attrs"
    throw (.exit "Unknown variables found in credential")
  pure (.list declaredVars.toList)

/-- A credential whose secret an account gives at run time. -/
def dynamicCred (r : Runtime) (b : Bound) : Build Value := do
  let secret := textDict [("attrs", textDict [("is_secret_modified", .bool true)]),
    ("value", .str "@@\x7bsecret\x7d@@")]
  let mut kw : List (String × Value) := [("type", b.get "type"), ("username", b.get "username"),
    ("secret", secret), ("name", b.get "name"), ("default", b.get "default"),
    ("cred_class", .str "dynamic"), ("account", b.get "account")]
  let mut resourceType := b.get "resource_type"
  if !resourceType.truthy then
    let accountName <- r.attr (b.get "account") "name"
    resourceType <- r.call (.builtin ["Ref.Resource_Type"]) [accountName] []
  if (b.get "variable_dict").truthy then
    let declaredVars <- resourceTypeVariables r resourceType (b.get "variable_dict")
    kw := kw ++ [("variable_list", declaredVars), ("resource_type", resourceType)]
  if (b.get "editables").truthy then kw := kw ++ [("editables", b.get "editables")]
  credentialCreate kw

def builtin? (r : Runtime) (name : String) : Option Builtin :=
  match name with
  | "basic_cred" => some {
      sig := { qualName := "basic_cred",
               params := [req "username", opt "password" (.str ""), opt "name" (.str "default"),
                 opt "default" (.bool false), opt "type" (.str "PASSWORD"), opt "filename" .none,
                 opt "editables" (.dict [])] }
      run := basicCred }
  | "secret_cred" => some {
      sig := { qualName := "secret_cred",
               params := [req "username", opt "name" (.str "default"), opt "secret" (.str "default"),
                 opt "type" (.str "PASSWORD"), opt "default" (.bool false),
                 opt "editables" (.dict [])] }
      run := secretCred }
  | "dynamic_cred" => some {
      sig := { qualName := "dynamic_cred",
               params := [req "username", req "account", opt "resource_type" .none,
                 opt "variable_dict" (.dict []), opt "name" (.str "default"),
                 opt "default" (.bool false), opt "type" (.str "PASSWORD"),
                 opt "editables" (.dict [])] }
      run := dynamicCred r }
  | _ => none

end Blueprints.Library.Credentials
