import Blueprints.Json.Render

namespace Blueprints.Http
open Json

/-- The methods of the management API. -/
inductive Method where
  | get | post | put | delete
deriving DecidableEq, Repr, Inhabited

def Method.name : Method -> String
  | .get => "GET"
  | .post => "POST"
  | .put => "PUT"
  | .delete => "DELETE"

/-- The body of a request. -/
inductive Body where
  | json (j : Json)
  | form (text : String)
deriving Repr, Inhabited

/-- A request to the management server. -/
structure Request where
  method : Method
  path : String
  query : List (String × String) := []
  body : Option Body := none
deriving Repr, Inhabited

/-- The body of a response. -/
inductive Content where
  | json (j : Json)
  | text (s : String)
deriving Repr, Inhabited

/-- A response of the management server. -/
structure Response where
  status : Nat
  content : Content
  url : String
deriving Repr, Inhabited

def host : String := "https://127.0.0.1:9440"

/-- Whether a character stands for itself in an encoded query. -/
def isUnreserved (c : Char) : Bool :=
  c.isAlphanum || c == '_' || c == '.' || c == '-' || c == '~'

/-- The two uppercase hexadecimal digits of a byte. -/
def hexByte (b : UInt8) : String :=
  let d (n : Nat) : Char := (Nat.digitChar n).toUpper
  String.ofList ['%', d (b.toNat / 16), d (b.toNat % 16)]

/-- A text encoded for a query string: unreserved characters stay, a space becomes `+`, and
    every other byte of its UTF-8 form is written `%XX`. -/
def formEncode (s : String) : String :=
  String.join <| s.toList.map fun c =>
    if c.isAlphanum && c.toNat < 128 then c.toString
    else if isUnreserved c && c.toNat < 128 then c.toString
    else if c == ' ' then "+"
    else String.join (c.toString.toUTF8.toList.map hexByte)

def queryText (params : List (String × String)) : String :=
  "&".intercalate (params.map fun (k, v) => formEncode k ++ "=" ++ formEncode v)

/-- The parameters of a query string that an endpoint carries after `?`. -/
def parseQuery (text : String) : List (String × String) :=
  (text.splitOn "&").filterMap fun part =>
    if part.isEmpty then none
    else match part.splitOn "=" with
      | [k] => some (k, "")
      | k :: rest => some (k, "=".intercalate rest)
      | [] => none

/-- An endpoint cut into its path and the parameters of its query string. -/
def splitEndpoint (endpoint : String) : String × List (String × String) :=
  match endpoint.splitOn "?" with
  | [path] => (path, [])
  | path :: rest => (path, parseQuery ("?".intercalate rest))
  | [] => (endpoint, [])

namespace Request

/-- The address of a request, with its query string. -/
def url (r : Request) : String :=
  let base := host ++ "/" ++ r.path
  if r.query.isEmpty then base else base ++ "?" ++ queryText r.query

/-- The JSON document of a request's body, when it has one. -/
def json? (r : Request) : Option Json :=
  match r.body with
  | some (.json j) => some j
  | _ => none

/-- The record of a request, as answers list it. -/
def record (r : Request) : Json :=
  let query := if r.query.isEmpty then [] else
    [("query", obj (r.query.foldl (fun acc (k, v) => setField acc k (.str v)) []))]
  let body := match r.body with
    | some (.json (.obj [])) | none => []
    | some (.json j) => [("body", j)]
    | some (.form t) => [("body", str t)]
  .obj ([("method", .str r.method.name), ("path", .str r.path)] ++ query ++ body)

end Request

def reason (status : Nat) : String := if status < 400 then "OK" else "ERROR"

namespace Response

/-- The text of a response's body; a JSON body is written on one line. -/
def text (r : Response) : String :=
  match r.content with
  | .json j => render .compact j
  | .text s => s

/-- The failure that a response's status stands for, if it is one. -/
def failure? (r : Response) : Option String :=
  let kind := if 400 ≤ r.status && r.status < 500 then some "Client Error"
    else if 500 ≤ r.status && r.status < 600 then some "Server Error" else none
  kind.map fun k => toString r.status ++ " " ++ k ++ ": " ++ reason r.status ++ " for url: " ++ r.url

end Response

end Blueprints.Http
