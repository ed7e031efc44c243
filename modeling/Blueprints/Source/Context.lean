import Blueprints.Template.Render
import Blueprints.Value.Operators
import Blueprints.Library.Files

namespace Blueprints.Source

open Library Text

/-- What the parts of a blueprint written so far have declared. -/
structure Record where
  credentialVars : List (String × String) := []
  credentialFiles : List String := []
  secretFiles : List String := []
  classNames : List (String × List (String × String)) := []
  runbookActions : List (String × String) := []
  configs : List (String × String × String) := []
  files : List (String × String) := []
  directory : Option String := none
deriving Inhabited

abbrev Writer := StateT Record Build

/-- Sets a key of an association list; a key set again keeps its place. -/
def assoc {α : Type} (xs : List (String × α)) (key : String) (v : α) : List (String × α) :=
  if xs.any (·.1 == key) then xs.map fun (k, w) => if k == key then (k, v) else (k, w)
  else xs ++ [(key, v)]

/-- The value of a key of an association list. -/
def lookup {α : Type} (xs : List (String × α)) (key : String) : Option α :=
  (xs.find? (·.1 == key)).map (·.2)

/-- Writes a file beside the source, replacing one at the same path, and into the blueprint's
    directory when there is one. -/
def writeFile (path text : String) : Writer Unit := do
  modify fun r => { r with files := assoc r.files path text }
  if let some dir := (<- get).directory then
    Library.Files.writeAt (joinPath dir path) text

/-- Records the class name written for a display name of an entity type. -/
def nameClass (entityType uiName className : String) : Writer Unit :=
  modify fun r =>
    let names := (lookup r.classNames entityType).getD []
    { r with classNames := assoc r.classNames entityType (assoc names uiName className) }

/-- The class name written for a display name of an entity type, if one was. -/
def classNameOf (entityType uiName : String) : Writer (Option String) := do
  pure ((lookup (<- get).classNames entityType).bind (lookup · uiName))

/-- Records the action that a runbook belongs to. -/
def nameRunbook (runbook action : String) : Writer Unit :=
  modify fun r => { r with runbookActions := assoc r.runbookActions runbook action }

/-- The variable of a credential; a credential not written yet is an error. -/
def credentialVar (name : String) : Writer String := do
  match lookup (<- get).credentialVars name with
  | some v => pure v
  | none => throw (.badValue (name ++ " not found"))

def fill (template : String) (obj : List (String × Value)) : Writer String :=
  Template.render template (.dict (obj.map fun (k, v) => (.str k, v)))

/-- An attribute of a class or of the classes it derives from, or the absent value. -/
def attrOf (e : Entity) (key : String) : Value := (e.lookup? key).getD .none

/-- The attributes that a class sets itself: its own attributes but the special ones, of which
    only variables and actions count. -/
def userAttrs (e : Entity) : List (String × Value) :=
  e.attrs.filter fun (k, v) =>
    k != "__parent__" && k != "__self__" &&
      (!isDunder k || match v with
        | .entity c => c.kind == .variable || c.kind == .action || c.kind == .runbook
        | _ => false)

/-- A dictionary's entries, which must be given as a dictionary. -/
def entries (v : Value) : Writer (List (Value × Value)) :=
  match v with
  | .dict es => pure es
  | .record _ fields => pure (fields.map fun (k, x) => (.str k, x))
  | v => throw (v.noAttribute "get")

/-- `d.get(key, default)` of a dictionary. -/
def getOr (d : Value) (key : String) (dflt : Value) : Writer Value := do
  pure ((dictGet? (<- entries d) key).getD dflt)

/-- Sets the entry of a key of a dictionary value, keys being equal as values are. -/
def dictPutValue (es : List (Value × Value)) (key v : Value) : List (Value × Value) :=
  if es.any (·.1.equal key) then es.map fun (k, x) => if k.equal key then (k, v) else (k, x)
  else es ++ [(key, v)]

/-- `d[key]` of a dictionary: a missing key is an error. -/
def item (d : Value) (key : String) : Writer Value := do
  match dictGet? (<- entries d) key with
  | some v => pure v
  | none => throw (.missingKey (quoted key))

/-- The dictionary of a class's attribute group, or of a class as compiling writes it. -/
def dictOf (r : Runtime) (v : Value) : Writer Value := do
  match v with
  | .record shape fields => recordDict shape fields
  | .entity _ => do pure (.ofJson (<- r.encode false [] v))
  | .dict _ => pure v
  | v => throw (v.noAttribute "get_dict")

/-- Text with its line breaks written as the two characters of an escape. -/
def escapeBreaks (s : String) : String := "\\n".intercalate (s.splitOn "\n")

/-- The text of a value's name attribute, or else the class name: `x.name or x.__name__`. -/
def nameOrClass (v : Value) : Writer String :=
  match v with
  | .entity e => pure (displayName e)
  | v => throw (v.noAttribute "__name__")

end Blueprints.Source
