import Blueprints.Value.Basic
import Blueprints.Text.Quoted
import Blueprints.Json.Render
import Blueprints.Fault

namespace Blueprints.Value
open Text

mutual
/-- The form of a value that reads back as the value. -/
def repr : Value -> String
  | .none => "None"
  | .bool b => if b then "True" else "False"
  | .int n => toString n
  | .float x => x.render
  | .str s => quoted s
  | .list items => "[" ++ reprItems items ++ "]"
  | .tuple [x] => "(" ++ repr x ++ ",)"
  | .tuple items => "(" ++ reprItems items ++ ")"
  | .dict entries => "\x7b" ++ reprEntries entries ++ "\x7d"
  | .entity e => e.name
  | .record _ [] => "ObjectDict()"
  | .record _ fields => "ObjectDict([" ++ reprFields fields ++ "])"
  | .builtin path => ".".intercalate path
  | .function f => f.defn.name
  | .status s => "Status." ++ s
  | .object cls _ => "<" ++ cls ++ " object>"
  | .bound recv m => "<bound method " ++ m ++ " of " ++ repr recv ++ ">"

/-- The forms of items, separated by commas. -/
def reprItems : List Value -> String
  | [] => ""
  | [x] => repr x
  | x :: xs => repr x ++ ", " ++ reprItems xs

def reprEntries : List (Value × Value) -> String
  | [] => ""
  | [(k, v)] => repr k ++ ": " ++ repr v
  | (k, v) :: es => repr k ++ ": " ++ repr v ++ ", " ++ reprEntries es

def reprFields : List (String × Value) -> String
  | [] => ""
  | [(k, v)] => "(" ++ quoted k ++ ", " ++ repr v ++ ")"
  | (k, v) :: fs => "(" ++ quoted k ++ ", " ++ repr v ++ "), " ++ reprFields fs
end

/-- The form that formatting inserts: a text as it is, anything else as `repr` writes it. -/
def toText : Value -> String
  | .str s => s
  | v => v.repr

/-- The name of the type of a value, as messages about types give it. -/
def typeName : Value -> String
  | .none => "NoneType"
  | .bool _ => "bool"
  | .int _ => "int"
  | .float _ => "float"
  | .str _ => "str"
  | .list _ => "list"
  | .tuple _ => "tuple"
  | .dict _ => "dict"
  | .entity e => "calm.dsl.builtins.models." ++ e.kind.moduleName ++ "." ++ e.kind.typeName
  | .record _ _ => "calm.dsl.builtins.models.object_type.ObjectDict"
  | .builtin _ => "function"
  | .function f => match f.decorator with
    | .action => "calm.dsl.builtins.models.action.action"
    | .runbook => "calm.dsl.builtins.models.runbook.runbook"
    | .plain => "function"
  | .status _ => "calm.dsl.runbooks.Status"
  | .object cls _ => cls
  | .bound _ _ => "method"

def isText (v : Value) (s : String) : Bool :=
  match v with
  | .str t => t == s
  | _ => false

/-- The text of the type of a value: `<class 'int'>`. -/
def typeText (v : Value) : String := "<class '" ++ v.typeName ++ "'>"

/-- The fault of asking a value for an attribute that its type lacks. -/
def noAttribute (v : Value) (attr : String) : Fault :=
  .missingAttribute ("'" ++ v.typeName ++ "' object has no attribute '" ++ attr ++ "'")

/-- The fault of setting an item of a value whose type has no items to set. -/
def noItemAssignment (v : Value) : Fault :=
  .wrongType ("'" ++ v.typeName ++ "' object does not support item assignment")

/-- The fault of reading an item of a value whose type has no items. -/
def notSubscriptable (v : Value) : Fault :=
  .wrongType ("'" ++ v.typeName ++ "' object is not subscriptable")

end Blueprints.Value
