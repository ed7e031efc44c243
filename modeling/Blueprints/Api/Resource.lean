import Blueprints.Http.Client
import Blueprints.Library.Entities

namespace Blueprints.Api

open Http Library Call

/-- The path under which the management API lives. -/
def root : String := "api/nutanix/v3"

/-- The path under which the newer part of the management API lives. -/
def calmRoot : String := "api/calm/v3.0"

/-- A collection of the management API, served by an object of the client. -/
structure Resource where
  className : String
  base : String
deriving Inhabited

/-- The collection `name` of the API, under the newer root when `calm` is set. -/
def Resource.named (className name : String) (calm : Bool := false) : Resource :=
  { className, base := (if calm then calmRoot else root) ++ "/" ++ name }

def dictOf (entries : List (String × Value)) : Value :=
  .dict (entries.map fun (k, v) => (.str k, v))

/-- The empty dictionary, a common default. -/
def emptyDict : Value := .dict []

def path! (d : Value) (keys : List String) : Build Value :=
  keys.foldlM at! d

/-- One more entity in a map of uuids by name: a new name takes the uuid itself, and a name
    seen before a list, the words of a uuid it had alone, or its list, then the new uuid. -/
def addUuid (map : List (Value × Value)) (name uuid : Value) : List (Value × Value) :=
  let extend (uuids : List Value) := map.map fun (k, v) =>
    if k.equal name then (k, .list (uuids ++ [uuid])) else (k, v)
  match map.find? (·.1.equal name) with
  | some (_, .str first) => extend ((Text.splitBlanks first).map .str)
  | some (_, .list uuids) => extend uuids
  | some _ => map
  | none => map ++ [(name, uuid)]

/-- The dictionary of pairs, a later pair of a key replacing the value of the earlier one in
    its place. -/
def keepLast (pairs : List (Value × Value)) : Value :=
  .dict (pairs.foldl (fun acc (k, v) =>
    if acc.any (·.1.equal k) then acc.map (fun (k', w) => if k'.equal k then (k', v) else (k', w))
    else acc ++ [(k, v)]) [])

/-- The name and uuid of each entity of a listing. -/
def namesAndUuids (entities : List Value) : Build (List (Value × Value)) :=
  entities.mapM fun e => do pure (<- path! e ["status", "name"], <- path! e ["metadata", "uuid"])

/-- The uuids of entities, given as pairs of name and uuid, grouped by name. -/
def groupUuids (pairs : List (Value × Value)) : List (Value × Value) :=
  pairs.foldl (fun map (name, uuid) => addUuid map name uuid) []

namespace Resource

/-- The path of one entity of the collection. -/
def item (r : Resource) (id : Value) : String := r.base ++ "/" ++ id.toText

def listPath (r : Resource) : String := r.base ++ "/list"

def create (r : Resource) (payload : Value) : Build Outcome :=
  send { method := .post, endpoint := r.base, payload }

/-- Reads one entity, or the collection itself without an id. -/
def read (r : Resource) (id : Value) : Build Outcome :=
  send { method := .get, endpoint := if id.truthy then r.item id else r.base }

def update (r : Resource) (uuid payload : Value) : Build Outcome :=
  send { method := .put, endpoint := r.item uuid, payload }

def delete (r : Resource) (uuid : Value) : Build Outcome :=
  send { method := .delete, endpoint := r.item uuid }

def list (r : Resource) (params : Value) (ignoreError : Bool := false) : Build Outcome :=
  send { method := .post, endpoint := r.listPath, payload := params, ignoreError }

/-- The entities of a page, with the number of matches it reports. -/
def pageOf (response : Value) : Build (Value × List Value) := do
  let total <- path! response ["metadata", "total_matches"]
  if total.equal (.int 0) then return (total, [])
  pure (total, <- iterate (<- at! response "entities"))

/-- The uuids of one page of the collection by entity name (`groupUuids`). -/
def nameUuidMap (r : Resource) (params : Value) : Build Value := do
  let response <- (<- r.list params).jsonOrRaise
  let (_, entities) <- pageOf response
  pure (.dict (groupUuids (<- namesAndUuids entities)))

/-- The names of one page of the collection by entity uuid. -/
def uuidNameMap (r : Resource) (params : Value) : Build Value := do
  let response <- (<- r.list params).jsonOrRaise
  let (_, entities) <- pageOf response
  pure (keepLast ((<- namesAndUuids entities).map fun (n, u) => (u, n)))

end Resource

/-- The most pages that listing everything reads. Each page is one request, and the server
    answers at most `Http.requestBudget` requests in a command and fails every request after
    them, which ends the listing: a listing that would go on for ever is ended by that failure,
    one page past the budget. -/
def pageBudget : Nat := Http.requestBudget + 1

/-- The parameters of a listing: those given, with the page length, offset `0` and, unless they
    are given, the order by creation time, oldest first. -/
def listParams (base : List (Value × Value)) (length : Value) : List (Value × Value) :=
  let params := dictPut (dictPut base "length" length) "offset" (.int 0)
  let params := if ((dictGet? params "sort_attribute").getD .none).isNone then
      dictPut params "sort_attribute" (.str "_created_timestamp_usecs_") else params
  if ((dictGet? params "sort_order").getD .none).isNone then
    dictPut params "sort_order" (.str "ASCENDING") else params

/-- Reads a listing page by page through `call`, from `offset` on and after the entities `found`
    so far, until a page reports no more matches than `length + offset`; each page moves the
    offset on by `length`. Pages that never report so make a listing without end: `fuel` bounds
    the pages read, and using it up is `Fault.endless`. -/
def readPages (call : Value -> Build Outcome) (params : List (Value × Value)) (length : Value)
    (ignoreError : Bool) : Nat -> Value -> List Value -> Build Value
  | 0, _, _ => throw .endless
  | fuel + 1, offset, found => do
    let outcome <- call (.dict (dictPut params "offset" offset))
    let response <- match outcome.error with
      | some err => if ignoreError then return .tuple [.list [], err] else raiseError err
      | none => outcome.json
    let found := found ++ (<- iterate (<- at! response "entities"))
    let total <- path! response ["metadata", "total_matches"]
    if <- compareValues .le total (<- arith .add length offset) then
      return if ignoreError then .tuple [.list found, .none] else .list found
    readPages call params length ignoreError fuel (<- arith .add offset length) found

/-- Every entity of a listing read through `call`, at most `fuel` pages of it: the list, or with
    `ignoreError` the list and the error of a failed page. -/
def listAllWith (call : Value -> Build Outcome) (fuel : Nat) (apiLimit baseParams : Value)
    (ignoreError : Bool) : Build Value := do
  let base <- match baseParams with
    | .none => pure []
    | .dict es => pure es
    | v => throw (v.noAttribute "copy")
  let length := (dictGet? base "length").getD apiLimit
  readPages call (listParams base length) length ignoreError fuel (.int 0) []

/-- Every entity of the collection, page by page: the list, or with `ignoreError` the list and
    the error of a failed page. -/
def Resource.listAll (r : Resource) (apiLimit baseParams : Value) (ignoreError : Bool) :
    Build Value :=
  listAllWith (r.list · ignoreError) pageBudget apiLimit baseParams ignoreError

end Blueprints.Api
