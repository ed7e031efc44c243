import Blueprints.Value.Text

namespace Blueprints.Value

/-- The object key that a dictionary key writes as. -/
def jsonKey : Value -> Except Fault String
  | .str s => .ok s
  | .int n => .ok (toString n)
  | .float x => .ok x.render
  | .bool b => .ok (if b then "true" else "false")
  | .none => .ok "null"
  | k => .error (.wrongType ("keys must be str, int, float, bool or None, not " ++ k.typeName))

mutual
def toJson : Value -> Except Fault Json
  | .none => .ok .null
  | .bool b => .ok (.bool b)
  | .int n => .ok (.int n)
  | .float x => .ok (.float x)
  | .str s => .ok (.str s)
  | .list items | .tuple items => (toJsonItems items).map .arr
  | .dict entries => (toJsonEntries entries).map .obj
  | .record _ fields => (toJsonFields fields).map .obj
  | v => .error (.wrongType ("Object of type " ++ v.typeName ++ " is not JSON serializable"))

def toJsonItems : List Value -> Except Fault (List Json)
  | [] => .ok []
  | v :: vs => do pure ((<- toJson v) :: (<- toJsonItems vs))

def toJsonEntries : List (Value × Value) -> Except Fault (List (String × Json))
  | [] => .ok []
  | (k, v) :: es => do pure ((<- jsonKey k, <- toJson v) :: (<- toJsonEntries es))

def toJsonFields : List (String × Value) -> Except Fault (List (String × Json))
  | [] => .ok []
  | (k, v) :: fs => do pure ((k, <- toJson v) :: (<- toJsonFields fs))
end

end Blueprints.Value
