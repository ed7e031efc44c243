import Blueprints.Entity.Compile
import Blueprints.Value.Json

namespace Blueprints

/-- Orders dictionary keys as sorting them does: texts by their characters, numbers by size;
    keys of both sorts cannot be ordered. -/
def sortKeys {α : Type} (entries : List (Value × α)) : Except Fault (List (Value × α)) :=
  if entries.all (fun (k, _) => k.str?.isSome) then
    .ok (entries.mergeSort fun a b => decide ((a.1.str?.getD "") ≤ (b.1.str?.getD "")))
  else if entries.all (fun (k, _) => k.numeric?.isSome) then
    let key (v : Value) : Int := match v.numeric? with
      | some (.inl n) => n
      | _ => 0
    .ok (entries.mergeSort fun a b => decide (key a.1 ≤ key b.1))
  else
    let firstOf (p : Value -> Bool) := (entries.find? (fun (k, _) => p k)).map (·.1.typeName)
    let a := (firstOf (fun k => k.str?.isNone)).getD "int"
    let b := (firstOf (fun k => k.str?.isSome)).getD "str"
    .error (.wrongType ("'<' not supported between instances of '" ++ a ++ "' and '" ++ b ++ "'"))

/-- Orders the entries of a compiled dictionary by key. -/
def sortDoc (d : Doc) : Doc := d.mergeSort fun a b => decide (a.1 ≤ b.1)

/-- The payload of a class: the display-name map is updated, then the class is compiled. -/
def payloadOf (r : Runtime) (parents : List Entity) (e : Entity) : Build Doc := do
  preCompile r e
  r.compile parents e

/-- Writes a value as JSON. An entity class met here is nested in `direct`; classes inside the
    dictionary it compiles to are written through the runtime, nested in it. -/
def encodeWith (r : Runtime) (sorted : Bool) (direct : List Entity) : Value -> Build Json
  | .none => pure .null
  | .bool b => pure (.bool b)
  | .int n => pure (.int n)
  | .float x => pure (.float x)
  | .str s => pure (.str s)
  | .list items | .tuple items => do
    let mut out : Array Json := #[]
    for x in items do
      out := out.push (<- r.encode sorted (if x.entity?.isSome then direct else []) x)
    pure (.arr out.toList)
  | .dict entries => do
    let ordered <- if sorted then
        match sortKeys entries with
        | .ok es => pure es
        | .error f => throw f
      else pure entries
    let mut out : Array (String × Json) := #[]
    for (k, x) in ordered do
      let key <- match Value.jsonKey k with
        | .ok s => pure s
        | .error f => throw f
      out := out.push (key, <- r.encode sorted [] x)
    pure (.obj out.toList)
  | .record _ fields => do
    let ordered := if sorted then fields.mergeSort fun a b => decide (a.1 ≤ b.1) else fields
    let mut out : Array (String × Json) := #[]
    for (k, x) in ordered do
      out := out.push (k, <- r.encode sorted [] x)
    pure (.obj out.toList)
  | .entity e => do
    let doc <- payloadOf r direct e
    let ordered := if sorted then sortDoc doc else doc
    let mut out : Array (String × Json) := #[]
    for (k, x) in ordered do
      match e.kind, k, x with
      | .endpoint, "attrs", .dict entries =>
        -- the classes an endpoint's attributes hold are nested in the endpoint
        let entries <- if sorted then
            match sortKeys entries with
            | .ok es => pure es
            | .error f => throw f
          else pure entries
        let mut inner : Array (String × Json) := #[]
        for (ik, iv) in entries do
          let key <- match Value.jsonKey ik with
            | .ok s => pure s
            | .error f => throw f
          inner := inner.push (key, <- r.encode sorted (e :: direct) iv)
        out := out.push (k, .obj inner.toList)
      | _, _, _ => out := out.push (k, <- r.encode sorted (e :: direct) x)
    pure (.obj out.toList)
  | v => throw (.wrongType ("Object of type " ++ jsonTypeName v ++ " is not JSON serializable"))
where
  jsonTypeName : Value -> String
    | .builtin path => path.getLast?.getD "type"
    | .object cls _ => cls
    | .function f => match f.decorator with
      | .action => "action"
      | .runbook => "runbook"
      | .plain => "function"
    | .bound _ _ => "method"
    | .status _ => "Status"
    | v => v.typeName

end Blueprints
