import Blueprints.Http.Exchange
import Blueprints.Text.Glob
import Blueprints.Value.Equality

namespace Blueprints.Http
open Json

/-- What a route wants of one part of a request. -/
inductive Want where
  | equals (v : Json)
  | contains (s : String)
  | absent (missing : Bool)
deriving Repr, Inhabited

/-- One answer of a route: a status and a body, not yet expanded. -/
structure Reply where
  status : Nat := 200
  content : Content
deriving Repr, Inhabited

/-- A route of the server. -/
structure Route where
  method : String := "GET"
  path : String
  wants : List (String × Want) := []
  replies : List Reply
  echo : Bool := false
deriving Repr, Inhabited

/-- The server: its routes and how many requests each has answered. -/
structure Server where
  routes : List Route := []
  accepted : List Nat := []
  count : Nat := 0
deriving Repr, Inhabited

/-- The most requests one command may send. -/
def requestBudget : Nat := 400

def hasInfix (s t : String) : Bool := t.isEmpty || (s.splitOn t).length > 1

namespace Want

/-- What a route's `match` value asks: `$contains` and `$absent` objects, or a plain value. -/
def ofJson (j : Json) : Want :=
  match j.get? "$contains", j.get? "$absent" with
  | some (.str s), _ => .contains s
  | _, some (.bool b) => .absent b
  | _, _ => .equals j

/-- Whether a part of a request, `none` when it is missing, is as wanted. -/
def holds : Want -> Option Json -> Bool
  | .equals v, some j => (Value.ofJson j).equal (.ofJson v)
  | .equals _, none => false
  | .contains t, some (.str s) => hasInfix s t
  | .contains _, _ => false
  | .absent missing, part => missing == part.isNone

end Want

/-- A number of a route's description, if it is a natural number. -/
def natOf? : Json -> Option Nat
  | .int n => if n ≥ 0 then some n.toNat else none
  | _ => none

/-- One answer described by a route or by an item of its answer list. -/
def Reply.ofJson (j : Json) : Reply :=
  let status := ((j.get? "status").bind natOf?).getD 200
  match j.get? "text" with
  | some (.str t) => { status, content := .text t }
  | _ => { status, content := .json (j.getD "body") }

/-- The route that a JSON description gives. -/
def Route.ofJson (j : Json) : Route :=
  let method := match j.get? "method" with
    | some (.str m) => m.toUpper
    | _ => "GET"
  let path := ((j.get? "path").bind str?).getD ""
  let wants := match j.get? "match" with
    | some (.obj fields) => fields.map fun (k, v) => (k, Want.ofJson v)
    | _ => []
  let replies := match j.get? "responses" with
    | some (.arr items) => items.map Reply.ofJson
    | _ => [Reply.ofJson j]
  let echo := match j.get? "echo" with
    | some (.bool b) => b
    | _ => false
  { method, path, wants, replies, echo }

/-- A server with the routes that JSON descriptions give. -/
def Server.ofJson (routes : List Json) : Server := { routes := routes.map Route.ofJson }

/-- The part of a JSON document at a dotted path: object fields by name, array items by
    position. -/
def partAt : Json -> List String -> Option Json
  | j, [] => some j
  | .obj fields, k :: rest => (fields.lookup k).bind (partAt · rest)
  | .arr items, k :: rest => (k.toNat?.bind (items[·]?)).bind (partAt · rest)
  | _, _ :: _ => none

/-- The part of a request that a route's key names. -/
def Request.part (r : Request) (key : String) : Option Json :=
  if key.startsWith "query." then
    ((r.query.reverse.lookup (key.drop 6).toString).map str)
  else (r.json?).bind (partAt · (key.splitOn "."))

def Route.accepts (route : Route) (r : Request) : Bool :=
  route.method == r.method.name && Text.globMatchesPath route.path r.path &&
    route.wants.all fun (k, w) => w.holds (r.part k)

/-- The deep merge of two documents: objects merge field by field, the second winning; any
    other second document replaces the first. -/
def merge (a b : Json) : Json :=
  match a, b with
  | .obj as, .obj bs =>
    .obj (bs.attach.foldl (fun acc ⟨(k, v), _⟩ =>
      setField acc k (match acc.lookup k with
        | some old => merge old v
        | none => v)) as)
  | _, b => b
termination_by sizeOf b
decreasing_by
  have := List.sizeOf_lt_of_mem ‹_ ∈ bs›; simp at this; simp; omega

/-- The list answer around entities, counting `total` matches when given. -/
def listAnswer (entities : List Json) (total : Option Nat) : Json :=
  .obj [("api_version", .str "3.1"),
    ("metadata", .obj [("kind", .str "list"), ("length", .int entities.length),
      ("offset", .int 0), ("total_matches", .int (total.getD entities.length))]),
    ("entities", .arr entities)]

/-- An object whose members are expanded, built when it is a `$list` or `$merge` object. -/
def build (fields : List (String × Json)) : Json :=
  match fields.lookup "$list", fields.lookup "$merge" with
  | some (.arr items), _ => listAnswer items ((fields.lookup "total").bind natOf?)
  | _, some (.arr items) =>
    match items with
    | [] => .obj []
    | first :: rest => rest.foldl merge first
  | _, _ => .obj fields

/-- A body expanded: `$list` and `$merge` objects are built, all else member by member. -/
def expand (j : Json) : Json :=
  match j with
  | .obj fields => build (fields.attach.map fun ⟨(k, v), _⟩ => (k, expand v))
  | .arr items => .arr (items.attach.map fun ⟨x, _⟩ => expand x)
  | j => j
termination_by sizeOf j
decreasing_by
  all_goals simp_wf
  · have := List.sizeOf_lt_of_mem ‹_ ∈ fields›; simp at this; omega
  · have := List.sizeOf_lt_of_mem ‹_ ∈ items›; omega

/-- The body of a route's answer to a request. -/
def Route.content (route : Route) (reply : Reply) (r : Request) : Content :=
  match reply.content with
  | .text t => .text t
  | .json body =>
    let body := expand body
    .json (if route.echo then merge ((r.json?).getD (.obj [])) body else body)

/-- The body of the answer to a request that no route accepts. -/
def noRoute : Json :=
  .obj [("code", .int 404), ("message_list",
    .arr [.obj [("message", .str "no route"), ("reason", .str "NOT_FOUND")]])]

namespace Server

/-- The first route that accepts a request, with its position. -/
def find? (s : Server) (r : Request) : Option (Nat × Route) :=
  (s.routes.zipIdx.find? fun (route, _) => route.accepts r).map fun (route, i) => (i, route)

/-- The answer to a request and the server after it, or the failure of a request beyond the
    budget. -/
def answer (s : Server) (r : Request) : Except String (Response × Server) := do
  if s.count ≥ requestBudget then
    throw ("more than " ++ toString requestBudget ++ " requests")
  let s := { s with count := s.count + 1 }
  match s.find? r with
  | none => pure ({ status := 404, content := .json noRoute, url := r.url }, s)
  | some (i, route) =>
    let n := s.accepted.getD i 0
    let reply := route.replies.getD (min n (route.replies.length - 1)) default
    let accepted := (s.accepted ++ List.replicate (i + 1 - s.accepted.length) 0).set i (n + 1)
    pure ({ status := reply.status, content := route.content reply r, url := r.url },
      { s with accepted })

end Server

end Blueprints.Http
