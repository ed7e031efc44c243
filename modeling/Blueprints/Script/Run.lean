import Blueprints.Script.Parser
import Blueprints.Flow.Interp

namespace Blueprints.Script

open Blueprints.Flow Build Text

/-- Where statements bind names: in the file, whose names the session holds, or in a class
    body, whose names become the attributes of the class. -/
inductive Scope where
  | file
  | body (names : Doc)
deriving Inhabited

namespace Scope

/-- The names that expressions see before the file's own. -/
def locals : Scope -> Doc
  | .file => []
  | .body names => names

/-- Binds a name; a name bound again keeps its place. -/
def bind (s : Scope) (name : String) (v : Value) : Build Scope :=
  match s with
  | .file => do
    Build.bindGlobal name v
    pure .file
  | .body names => pure (.body (names.put name v))

/-- Whether the scope binds a name itself. -/
def binds (s : Scope) (name : String) : Build Bool :=
  match s with
  | .file => do pure ((<- Build.global? name).isSome)
  | .body names => pure (names.any (·.1 == name))

end Scope

/-- The packages of the library that files import names from. -/
def isLibraryPackage (module : String) : Bool :=
  module == "calm.dsl.builtins" || module == "calm.dsl.runbooks" ||
    module.startsWith "calm.dsl.builtins." || module.startsWith "calm.dsl.runbooks."

/-- The value of a name imported from a module. -/
def importedName (module name : String) : Build Value := do
  if !isLibraryPackage module then
    throw (.system "ModuleNotFoundError" ("No module named " ++ quoted module))
  let saved := (<- get).strictNames
  modify fun s => { s with strictNames := false }
  let v? <- Library.globalName? name
  modify fun s => { s with strictNames := saved }
  -- the helpers that read files are imported like the other names of the library
  let v? := match v? with
    | some v => some v
    | none => if Library.fileHelperNames.contains name then some (.builtin [name]) else none
  match v? with
  | some v => pure v
  | none => throw (.importFailure ("cannot import name " ++ quoted name ++ " from " ++
      quoted module))

/-- The message of an unpacking whose counts differ. -/
def unpackMessage (expected got : Nat) : String :=
  if got < expected then
    "not enough values to unpack (expected " ++ toString expected ++ ", got " ++ toString got ++ ")"
  else "too many values to unpack (expected " ++ toString expected ++ ")"

/-- Binds a value to an assignment target. A name is bound in the scope; a tuple or list of
    targets takes the items of the value one each; an attribute of a class sets it on the class
    and binds the changed class again under its name. -/
def assignTarget (r : Runtime) : Nat -> Scope -> Expr -> Value -> Build Scope
  | 0, _, _, _ => throw .tooDeep
  | fuel + 1, s, target, v =>
    match target with
    | .name n => s.bind n v
    | .tuple targets | .list targets => do
      let items <- iterate v
      if items.length != targets.length then
        throw (.badValue (unpackMessage targets.length items.length))
      let mut s := s
      for (t, x) in targets.zip items do
        s <- assignTarget r fuel s t x
      pure s
    | .attr (.name n) field => do
      match <- eval r s.locals (.name n) with
      | .entity e =>
        let e' <- e.set field v
        if <- s.binds n then s.bind n (.entity e')
        else do
          Build.bindGlobal n (.entity e')
          pure s
      | other => throw (other.noAttribute field)
    | .index (.name n) key => do
      let container <- eval r s.locals (.name n)
      let k <- eval r s.locals key
      match container with
      | .dict es =>
        let es := if es.any (·.1.equal k) then es.map fun (a, b) => if a.equal k then (a, v) else (a, b)
          else es ++ [(k, v)]
        s.bind n (.dict es)
      | other => throw (.wrongType ("'" ++ other.typeName ++
          "' object does not support item assignment"))
    | _ => throw (.unsupported "assignment to this target")

/-- Makes a class from its bases and the names its body bound. The first base decides the kind
    of the class; a class without an entity base is a plain class of its own. -/
def makeClass (name : String) (bases : List Value) (doc : Option String) (attrs : Doc) :
    Build Value := do
  match bases with
  | .entity first :: _ =>
    let entityBases := bases.filterMap Value.entity?
    pure (.entity (<- Entity.create first.kind (some name) entityBases doc attrs))
  | [] => pure (.object name attrs)
  | other :: _ => throw (.wrongType ("bases must be types, not " ++ other.typeName))

/-- Defines a function: its decorators are evaluated, then its defaults, then the decorators
    are applied to it, the innermost first. -/
def defineFunction (r : Runtime) (s : Scope) (decorators : List Expr) (defn : FuncDef) :
    Build Value := do
  let mut decos : Array Value := #[]
  for d in decorators do decos := decos.push (<- eval r s.locals d)
  let mut defaults : Array (String × Value) := #[]
  for p in defn.params do
    match p.default with
    | some e => defaults := defaults.push (p.name, <- eval r s.locals e)
    | none => pure ()
  let mut f := Value.function (.mk .plain defn defaults.toList [])
  for d in decos.toList.reverse do
    f <- r.call d [f] []
  pure f

mutual

def runItems (r : Runtime) : Nat -> Scope -> List Item -> Build Scope
  | 0, _, _ => throw .tooDeep
  | fuel + 1, s, items => do
    let mut s := s
    for item in items do
      s <- runItem r fuel s item
    pure s

def runItem (r : Runtime) : Nat -> Scope -> Item -> Build Scope
  | 0, _, _ => throw .tooDeep
  | fuel + 1, s, item =>
    match item with
    | .expr e => do
      let _ <- eval r s.locals e
      pure s
    | .assign targets value => do
      let v <- eval r s.locals value
      let mut s := s
      for t in targets do
        s <- assignTarget r exprFuel s t v
      pure s
    | .augAssign target op value => do
      let old <- eval r s.locals target
      let v <- arith op old (<- eval r s.locals value)
      assignTarget r exprFuel s target v
    | .importModules names => do
      let mut s := s
      for (m, asName) in names do
        if !Library.Modules.names.contains m then
          throw (.system "ModuleNotFoundError" ("No module named " ++ quoted m))
        s <- s.bind (asName.getD m) (.builtin [m])
      pure s
    | .importFrom module names => do
      let mut s := s
      for (n, asName) in names do
        if n == "*" then
          for name in Library.builtinNames ++ Library.rootClasses.map (·.1) ++ ["Service"] ++
              Library.fileHelperNames do
            s <- s.bind name (<- importedName module name)
        else
          s <- s.bind (asName.getD n) (<- importedName module n)
      pure s
    | .classDef name decorators bases _ doc body => do
      let mut decos : Array Value := #[]
      for d in decorators do decos := decos.push (<- eval r s.locals d)
      let mut baseValues : Array Value := #[]
      for b in bases do baseValues := baseValues.push (<- eval r s.locals b)
      let inner <- runItems r fuel (.body []) body
      let mut cls <- makeClass name baseValues.toList doc inner.locals
      for d in decos.toList.reverse do
        cls <- r.call d [cls] []
      s.bind name cls
    | .funcDef decorators defn => do
      s.bind defn.name (<- defineFunction r s decorators defn)
    | .ifThen test body orelse => do
      if (<- eval r s.locals test).truthy then runItems r fuel s body
      else runItems r fuel s orelse
    | .withBlock _ _ _ => throw (.unsupported "with statements outside a function")
    | .pass => pure s
    | .other kind _ _ => throw (.unsupported (kind ++ " statements outside a function"))

end

/-- How deeply the statements of a file may nest. -/
def itemFuel : Nat := 512

/-- Runs a blueprint file given by its path and text, with fresh names of its own; the names it
    binds stay bound in the session. A grammar error, or a failure of a statement other than
    the end of the program, is logged and ends the program with status `-1`. -/
def runFile (r : Runtime) (path text : String) : Build Unit := do
  let m <- match parseModule text with
    | .ok m => pure m
    | .error e => exitWith (e.message ++ " (" ++ baseName path ++ ", line " ++
        toString e.line ++ ")")
  modify fun s => { s with globals := [], strictNames := true, ranFile := true,
                           sourceDir := dirName (absolutePath path) }
  try
    let _ <- runItems r itemFuel .file m.items
    modify fun s => { s with strictNames := false }
  catch f =>
    modify fun s => { s with strictNames := false }
    match f with
    | .exit status => throw (.exit status)
    | f => exitWith f.message

end Blueprints.Script
