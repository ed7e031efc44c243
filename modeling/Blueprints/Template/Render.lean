import Blueprints.Template.Syntax
import Blueprints.Value.Text
import Blueprints.Session
import Blueprints.Yaml.Scalar

namespace Blueprints.Template

/-- The names of a template's scope with their values. -/
abbrev Scope := List (String × Value)

/-- A field of a value, if it has one; a value of another type has no fields. -/
def field? (v : Value) (name : String) : Option Value :=
  match v with
  | .dict entries => (entries.find? fun (k, _) => k.isText name).map (·.2)
  | .record _ fields => (fields.find? (·.1 == name)).map (·.2)
  | _ => none

/-- The type of a value as a message about a missing field names it. -/
def ownerName (v : Value) : String :=
  match v with
  | .dict _ => "dict object"
  | .record _ _ => "ObjectDict object"
  | v => v.typeName ++ " object"

/-- The value of a path: none if the last step finds nothing, an error if an earlier one does. -/
def lookupPath (scope : Scope) (name : String) (fields : List String) :
    Build (Option Value) := do
  let some start := (scope.find? (·.1 == name)).map (·.2) | do
    if fields.isEmpty then return none
    throw (.undefined ("'" ++ name ++ "' is undefined"))
  let mut cur := start
  let mut rest := fields
  for f in fields do
    rest := rest.drop 1
    match field? cur f with
    | some v => cur := v
    | none =>
      if rest.isEmpty then return none
      throw (.undefined ("'" ++ ownerName cur ++ "' has no attribute '" ++ f ++ "'"))
  pure (some cur)

/-- The value of an expression, or none if it has none. -/
def eval (scope : Scope) : Expr -> Build (Option Value)
  | .path name fields => lookupPath scope name fields
  | .int n => pure (some (.int n))
  | .defined e => do pure (some (.bool (<- eval scope e).isSome))
  | .not e => do pure (some (.bool !(truth (<- eval scope e))))
  | .and a b => do
    let x <- eval scope a
    if truth x then eval scope b else pure x
  | .or a b => do
    let x <- eval scope a
    if truth x then pure x else eval scope b
  | .eq a b => do
    let x <- eval scope a
    let y <- eval scope b
    pure (some (.bool (match x, y with
      | some x, some y => Value.equal x y
      | none, none => true
      | _, _ => false)))
where
  truth : Option Value -> Bool
    | some v => v.truthy
    | none => false

/-- The lines of a text as the language's `splitlines` gives them. -/
def splitLines (s : String) : List String :=
  let rec go : List Char -> List Char -> List String
    | [], acc => if acc.isEmpty then [] else [String.ofList acc.reverse]
    | '\r' :: '\n' :: rest, acc => String.ofList acc.reverse :: go rest []
    | c :: rest, acc =>
      if Yaml.endsLine c then String.ofList acc.reverse :: go rest [] else go rest (c :: acc)
  go s.toList []

/-- Text with `width` spaces before every line that is not empty, the first one included. -/
def indentText (width : Nat) (s : String) : String :=
  let pad := String.ofList (List.replicate width ' ')
  match splitLines (s ++ "\n") with
  | [] => pad
  | first :: rest =>
    pad ++ first ++ String.join (rest.map fun line =>
      "\n" ++ (if line.isEmpty then line else pad ++ line))

/-- The items that a loop runs over: the items of a list, or the keys of a dictionary. -/
def itemsOf (v : Option Value) : Build (List Value) :=
  match v with
  | none => pure []
  | some (.list items) | some (.tuple items) => pure items
  | some (.dict entries) => pure (entries.map (·.1))
  | some (.str s) => pure (s.toList.map fun c => .str (String.singleton c))
  | some other => throw (.wrongType ("'" ++ other.typeName ++ "' object is not iterable"))

mutual
def fillNode (scope : Scope) : Node -> Build String
  | .text s => pure s
  | .out e indent => do
    let text := match <- eval scope e with
      | some v => v.toText
      | none => ""
    pure (match indent with
      | some w => indentText w text
      | none => text)
  | .cond test yes no => do
    if eval.truth (<- eval scope test) then fillNodes scope yes else fillNodes scope no
  | .each name source body => do
    let items <- itemsOf (<- eval scope source)
    let mut out := ""
    for item in items do
      out := out ++ (<- fillNodes ((name, item) :: scope) body)
    pure out

/-- Fills the parts of a template, in order. -/
def fillNodes (scope : Scope) : List Node -> Build String
  | [] => pure ""
  | n :: rest => do pure ((<- fillNode scope n) ++ (<- fillNodes scope rest))
end

/-- Text with the blanks at both ends taken away. -/
def strip (s : String) : String := trimStart (trimEnd s)

/-- Fills a template with `obj` bound to a value and takes away the blanks at both ends. -/
def render (src : String) (obj : Value) : Build String := do
  match parse src with
  | .ok nodes => pure (strip (<- fillNodes [("obj", obj)] nodes))
  | .error e => throw (.unsupported ("bad template: " ++ e))

end Blueprints.Template
