import Blueprints.Library.Signature
import Blueprints.Entity.Compile
import Blueprints.Library.Roots

namespace Blueprints.Library
open Entity

/-- A function of the library. -/
structure Builtin where
  sig : Signature
  run : Bound -> Build Value

/-- A library function with the given parameters. -/
def fn (qualName : String) (params : List (String × Option Value)) (run : Bound -> Build Value) :
    Builtin :=
  { sig := { qualName, params }, run }

/-- A class constructor of the library with the given parameters; the class it is called on
    counts as its first argument. -/
def ctor (qualName : String) (params : List (String × Option Value)) (run : Bound -> Build Value) :
    Builtin :=
  { sig := { qualName := qualName ++ ".__new__", params, implicit := 1 }, run }

/-- A library function whose body raises, as the constructors of namespace classes do. -/
def refusing (qualName : String) (message : String) : Builtin where
  sig := { qualName, params := [], implicit := 1, varArgs := true, varKw := true }
  run _ := throw (.wrongType message)

/-- The text of `x or ""` for a name in a message: a false value gives the empty text. -/
def nameText (v : Value) : Build String :=
  if !v.truthy then pure ""
  else match v with
    | .str s => pure s
    | _ => throw (.wrongType ("can only concatenate str (not \"" ++ v.typeName ++ "\") to str"))

/-- Whether a pattern matches at the start of a value, which must be a text. -/
def patternMatches (pattern value : Value) : Build Bool := do
  let p <- match pattern with
    | .str s => pure s
    | _ => throw (.wrongType "first argument must be string or compiled pattern")
  let s <- match value with
    | .str s => pure s
    | v => throw (.wrongType ("expected string or bytes-like object, got '" ++ v.typeName ++ "'"))
  match Text.Pattern.parse p with
  | some pat => pure (pat.matchesPrefix s)
  | none => throw (.badValue ("invalid pattern " ++ Text.quoted p))

/-- Makes a class of a kind with the given attributes; an absent or empty name is replaced by
    one made from the kind and a fresh identifier. -/
def makeClass (k : Kind) (name : Value) (bases : List Entity) (attrs : List (String × Value)) :
    Build Entity :=
  createNamed k name bases none attrs

/-- The value of a key of a dictionary value, if it is there. -/
def dictGet? (entries : List (Value × Value)) (key : String) : Option Value :=
  (entries.find? fun (k, _) => k.isText key).map (·.2)

/-- Sets the entry of a text key of a dictionary value, keeping the key's place if it is there. -/
def dictPut (entries : List (Value × Value)) (key : String) (v : Value) : List (Value × Value) :=
  if entries.any (·.1.isText key) then
    entries.map fun (k, x) => if k.isText key then (k, v) else (k, x)
  else entries ++ [(.str key, v)]

/-- Removes the entry of a text key of a dictionary value. -/
def dictDrop (entries : List (Value × Value)) (key : String) : List (Value × Value) :=
  entries.filter fun (k, _) => !k.isText key

def textDict (entries : List (String × Value)) : Value :=
  .dict (entries.map fun (k, v) => (.str k, v))

/-- A reference to an entity class: a new unnamed reference class holding the class's display
    name and kind, and the class itself. -/
def getRef (e : Entity) (kind : Option String := none) : Build Value := do
  -- a simple deployment is referred to as a deployment
  let kind := if e.kind == .simpleDeployment then some "app_blueprint_deployment"
    -- a downloadable image is referred to as a package
    else if e.kind == .vmDiskPackage then some "app_package" else kind
  let cls <- create .ref none [] none
    [("name", .str (displayName e)), ("kind", .str (kind.getD e.kind.apiKind))]
  pure (.entity (cls.setAttr "__self__" (.entity e)))

/-- A target given to a task as a reference: a class that is not a reference is replaced by a
    reference to it; anything else is kept. -/
def targetRef (v : Value) : Build Value :=
  match v with
  | .entity e => if e.kind == .ref then pure v else getRef e
  | _ => pure v

/-- `x.get_dict()`: a class is compiled and read back as data, an attribute group gives its
    attributes by name. -/
def getDict (r : Runtime) (v : Value) : Build Value := do
  match v with
  | .entity _ => do
    let m <- r.attr v "get_dict"
    r.call m [] []
  | .record shape fields => recordDict shape fields
  | v => throw (v.noAttribute "get_dict")

/-- An attribute read from a value that must be a class, with the language's message when it is
    not. -/
def attrOfValue (r : Runtime) (v : Value) (name : String) : Build Value :=
  match v with
  | .entity _ | .function _ | .builtin _ | .object _ _ => r.attr v name
  | _ => throw (v.noAttribute name)

end Blueprints.Library
