import Blueprints.Library.Builtin
import Blueprints.Value.Json

namespace Blueprints.Library.Modules

/-- The modules a file may import, by name. -/
def names : List String := ["json", "os"]

def dumps (b : Bound) : Build Value := do
  let j <- match (b.get "obj").toJson with
    | .ok j => pure j
    | .error f => throw f
  let indent := match b.get "indent" with
    | .int n => some n.toNat
    | _ => none
  let layout : Json.Layout := match indent with
    | some n => { Json.Layout.pretty n with sortKeys := (b.get "sort_keys").truthy }
    | none => { sortKeys := (b.get "sort_keys").truthy }
  pure (.str (Json.render layout j))

def joinPaths (b : Bound) : Build Value := do
  let mut path := ""
  let mut first := true
  for v in b.get "a" :: b.rest do
    let part <- match v with
      | .str s => pure s
      | other => throw (.wrongType ("join() argument must be str, bytes, or os.PathLike object, " ++
          "not '" ++ other.typeName ++ "'"))
    if first then path := part
    else if part.startsWith "/" then path := part
    else if path.isEmpty || path.endsWith "/" then path := path ++ part
    else path := path ++ "/" ++ part
    first := false
  pure (.str path)

/-- The functions of the modules, by their dotted names. -/
def builtin? (name : String) : Option Builtin :=
  match name with
  | "json.dumps" =>
    some (fn name [req "obj", opt "indent" .none, opt "sort_keys" (.bool false)] dumps)
  | "os.path.join" =>
    some { sig := { qualName := "join", params := [req "a"], varArgs := true }, run := joinPaths }
  | _ => none

/-- The members of the modules that are functions. -/
def member? (owner attr : String) : Option String :=
  if owner == "json" && attr == "dumps" then some "json.dumps"
  else if owner == "os" && attr == "path" then some "os.path"
  else if owner == "os.path" && attr == "join" then some "os.path.join"
  else none

end Blueprints.Library.Modules
