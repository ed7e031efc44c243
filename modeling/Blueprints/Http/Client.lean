import Blueprints.Value.Json
import Blueprints.Json.Parse
import Blueprints.Value.Operators

namespace Blueprints.Http
open Build Json

/-- A file sent in a multipart form. -/
structure FilePart where
  field : String
  fileName : String
  content : String
  contentType : Option String := none
deriving Repr, Inhabited

/-- A call of the management API. -/
structure Call where
  method : Method
  endpoint : String
  payload : Value := .none
  params : Value := .none
  files : Option (List FilePart) := none
  ignoreError : Bool := false
  warning : String := ""
deriving Inhabited

/-- What a call gives back: the response, when there is one, and the error, when it failed. -/
structure Outcome where
  response : Option Response
  error : Option Value
deriving Inhabited

/-- The query parameters that a dictionary stands for: each key with each of its values, a list
    giving one parameter per item, absent values left out. -/
def paramsOf : Value -> List (String × String)
  | .dict entries => entries.flatMap fun (k, v) =>
    match v with
    | .none => []
    | .list items | .tuple items =>
      items.filterMap fun x => if x.isNone then none else some (k.toText, x.toText)
    | v => [(k.toText, v.toText)]
  | _ => []

/-- The delimiter line that opens a part of a form. -/
def formDelimiter : String := "--BOUNDARY\r\n"

/-- The text of a multipart form with plain fields and then files. -/
def formText (fields : List (String × String)) (files : List FilePart) : String :=
  let plain := fields.map fun (k, v) =>
    formDelimiter ++ "Content-Disposition: form-data; name=\"" ++ k ++ "\"\r\n\r\n" ++ v ++ "\r\n"
  let attached := files.map fun f =>
    let kind := match f.contentType with
      | some t => "Content-Type: " ++ t ++ "\r\n"
      | none => ""
    formDelimiter ++ "Content-Disposition: form-data; name=\"" ++ f.field ++ "\"; filename=\"" ++
      f.fileName ++ "\"\r\n" ++ kind ++ "\r\n" ++ f.content ++ "\r\n"
  String.join plain ++ String.join attached ++ "--BOUNDARY--\r\n"

/-- The fields of a payload sent as a form. -/
def formFields : Value -> List (String × String)
  | .dict entries => entries.map fun (k, v) => (k.toText, v.toText)
  | _ => []

namespace Response

/-- The JSON document of a response's body, if it holds one. -/
def json? (r : Response) : Option Json :=
  match r.content with
  | .json j => some j
  | .text t => match parse t with
    | .ok j => some j
    | .error _ => none

/-- The body of a response read as JSON, failing as reading a text that is not JSON fails. -/
def json (r : Response) : Build Value :=
  match r.content with
  | .json j => pure (Value.ofJson j)
  | .text t => match parse t with
    | .ok j => pure (Value.ofJson j)
    | .error e => throw (.notJson (e.render t))

end Response

/-- The request that a call sends, or the failure of building it. -/
def Call.request (c : Call) : Except Fault Request := do
  let (path, inline) := splitEndpoint c.endpoint
  let payload := if c.payload.truthy then c.payload else .dict []
  let params := paramsOf c.params
  let json (v : Value) : Except Fault (Option Body) := do pure (some (.json (<- v.toJson)))
  let (query, body) <- match c.method, c.files with
    | .post, some files => pure (inline, some (.form (formText (formFields payload) files)))
    | .get, _ => pure (inline ++ (if c.params.truthy then params else paramsOf payload), none)
    | _, _ => do pure (inline ++ params, <- json payload)
  pure { method := c.method, path := path, query := query, body := body }

def errorOf (message : Value) (code : Int) : Value :=
  .dict [(.str "error", message), (.str "code", .int code)]

/-- Ends a failed call: quietly, or by logging the error and giving the response. -/
def failed (c : Call) (message : Value) (status : Nat) (response : Option Response) :
    Build Outcome := do
  let err := errorOf message status
  if c.ignoreError then
    if !c.warning.isEmpty then logWarning c.warning
    return ⟨none, some err⟩
  let text := match err.toJson with
    | .ok j => render (.pretty 4) j
    | .error _ => err.repr
  logError ("Oops! Something went wrong.\n" ++ text)
  pure ⟨response, some err⟩

/-- Makes a call: sends its request to the server of the session and reads the answer. The
    server must be reachable by the settings: one that lacks a setting is an error before any
    request. -/
def Call.send (c : Call) : Build Outcome := do
  let _ <- serverSettings
  match c.request with
  | .error f => failed c (.str f.message) 500 none
  | .ok req =>
    let s <- get
    match s.server.answer req with
    | .error msg => failed c (.str msg) 500 none
    | .ok (res, server) =>
      set { s with server, sent := s.sent.push req }
      match res.failure? with
      | none => pure ⟨some res, none⟩
      | some text =>
        let message := match res.json? with
          | some j => Value.ofJson j
          | none => .str text
        failed c message res.status (some res)

def at! (d : Value) (key : String) : Build Value := subscript d (.str key)

/-- Fails as a call that raises on its error does: `[code] - error`. -/
def raiseError {α : Type} (err : Value) : Build α := do
  let code <- at! err "code"
  let message <- at! err "error"
  throw (.failure ("[" ++ code.toText ++ "] - " ++ message.toText))

/-- The body of an outcome's response read as JSON; an outcome without a response has none to
    read. -/
def Outcome.json (o : Outcome) : Build Value :=
  match o.response with
  | some r => r.json
  | none => throw (.missingAttribute "'NoneType' object has no attribute 'json'")

/-- The body of an outcome read as JSON, or the failure that its error raises. -/
def Outcome.jsonOrRaise (o : Outcome) : Build Value :=
  match o.error with
  | some err => raiseError err
  | none => o.json

/-- A failed call logs `[code] - error` and ends the program with status `-1`. -/
def Outcome.exitOnError (o : Outcome) : Build Unit := do
  if let some err := o.error then
    exitWith ("[" ++ (<- at! err "code").toText ++ "] - " ++ (<- at! err "error").toText)

/-- A failed call logs its error and ends the program with status `-1`. -/
def Outcome.exitOnErrorText (o : Outcome) : Build Unit := do
  if let some err := o.error then exitWith err.toText

/-- The body of an outcome read as JSON; a failed call logs `[code] - error` and ends the program
    with status `-1`. -/
def Outcome.jsonOrExit (o : Outcome) : Build Value := do
  o.exitOnError
  o.json

end Blueprints.Http
