import Blueprints.Kinds.Machines
import Blueprints.Kinds.Application
import Blueprints.Kinds.Environment
import Blueprints.Kinds.Project
import Blueprints.Kinds.Patch
import Blueprints.Kinds.Shorthand
import Blueprints.Library.CloudInit
import Blueprints.Decompile.Class
import Blueprints.Entity.Encode
import Blueprints.Flow.Descriptor
import Blueprints.Kinds.Brownfield

namespace Blueprints.Evaluator

open Library Json Kinds

/-- The library function that a name of the library stands for. -/
def builtin? (r : Runtime) (name : String) : Option Builtin :=
  [Variables.builtin? r, Tasks.builtin? r, Credentials.builtin? r, Endpoints.builtin?,
   References.builtin?, Flow.builtin? r, Entities.builtin?, Machines.builtin? r,
   Accounts.builtin? r, Payloads.builtin? r, Protection.builtin? r,
   Patches.builtin? r, CloudInit.builtin? r, Files.builtin?, Specs.builtin? r, Brownfield.builtin?, Modules.builtin?].findSome? (· name)

/-- The last part of a dotted name: the name of the class itself. -/
def shortName (name : String) : String := ((name.splitOn ".").getLast?).getD name

/-- The methods that every entity class has. -/
def entityMethods : List String :=
  ["compile", "get_dict", "json_dumps", "get_ref", "get_all_attrs", "clone", "generate_payload",
   "pre_compile", "get_user_attrs", "yaml_dump", "json_loads"]

/-- The methods that only classes of one kind have. -/
def kindMethods (k : Kind) : List String :=
  match k with
  | .simpleBlueprint => ["make_bp_dict", "make_single_vm_bp_dict"]
  | .vmBlueprint => ["make_bp_obj"]
  | .podDeployment | .simplePodDeployment => ["extract_deployment"]
  | _ => []

/-- Binds the arguments of a method of the classes of kind `k`; the class is the method's first
    argument. -/
def methodArgs (k : Kind) (method : String) (params : List (String × Option Value))
    (args : List Value) (kwargs : List (String × Value)) : Build Bound :=
  let sig : Signature := { qualName := k.schemaName ++ "Type." ++ method, params, implicit := 1 }
  match sig.bind args kwargs with
  | .ok b => pure b
  | .error f => throw f

/-- The methods of dictionaries that blueprint files may call. -/
def dictMethods : List String := ["get", "keys", "values", "items", "copy"]

/-- Reads an attribute of an entity class. -/
def entityAttr (r : Runtime) (e : Entity) (name : String) : Build Value := do
  match name with
  | "__name__" => return .str e.name
  | "__doc__" => return (match e.doc with | some d => .str d | none => .none)
  | "__kind__" => return .str e.kind.apiKind
  | "__schema_name__" => return .str e.kind.schemaName
  | _ => pure ()
  match e.lookup? name with
  | some (.function f) => Flow.descriptorGet r f e
  | some (.object "_ProviderSpec" fields) => Entities.readProviderSpec e fields
  | some v => return v
  | none =>
    if entityMethods.contains name || (kindMethods e.kind).contains name then
      return .bound (.entity e) name
    throw (.missingAttribute ("type object '" ++ e.name ++ "' has no attribute '" ++ name ++ "'"))

def attrOf (r : Runtime) (v : Value) (name : String) : Build Value := do
  match v with
  | .entity e => entityAttr r e name
  | .builtin [owner] =>
    if let some v <- classMember? owner name then return v
    match member? owner name with
    | some m => pure m
    | none =>
      if name == "__name__" then pure (.str (shortName owner))
      else throw (.missingAttribute ("type object '" ++ shortName owner ++ "' has no attribute '" ++
        name ++ "'"))
  | .function f =>
    match f.field? name with
    | some x => pure x
    | none => throw (.missingAttribute ("'" ++ shortName v.typeName ++ "' object has no attribute '" ++
        name ++ "'"))
  | .object cls fields =>
    match fields.find? (·.1 == name) with
    | some (_, x) => pure x
    | none => throw (.missingAttribute ("'" ++ cls ++ "' object has no attribute '" ++ name ++ "'"))
  | .dict _ =>
    if dictMethods.contains name then pure (.bound v name)
    else throw (.missingAttribute ("'dict' object has no attribute '" ++ name ++ "'"))
  | _ => throw (.missingAttribute ("'" ++ shortName v.typeName ++ "' object has no attribute '" ++
      name ++ "'"))

/-- Calls a method of a dictionary that reads it: `get` with an optional default, and the lists
    of its keys, values and entries. -/
def callDictMethod (entries : List (Value × Value)) (method : String) (args : List Value)
    (kwargs : List (String × Value)) : Build Value := do
  if !kwargs.isEmpty then throw (.wrongType (method ++ "() takes no keyword arguments"))
  match method, args with
  | "get", [key] => pure (((entries.find? (·.1.equal key)).map (·.2)).getD .none)
  | "get", [key, dflt] => pure (((entries.find? (·.1.equal key)).map (·.2)).getD dflt)
  | "get", _ =>
    if args.isEmpty then throw (.wrongType "get expected at least 1 argument, got 0")
    else throw (.wrongType ("get expected at most 2 arguments, got " ++ toString args.length))
  | "keys", [] => pure (.list (entries.map (·.1)))
  | "values", [] => pure (.list (entries.map (·.2)))
  | "items", [] => pure (.list (entries.map fun (k, x) => .tuple [k, x]))
  | "copy", [] => pure (.dict entries)
  | m, _ => throw (.wrongType (m ++ "() takes no arguments (" ++ toString args.length ++ " given)"))

def callMethod (r : Runtime) (e : Entity) (method : String) (args : List Value)
    (kwargs : List (String × Value)) : Build Value := do
  match method with
  | "get_ref" =>
    let kind := match args.head?, kwargs.find? (·.1 == "kind") with
      | some (.str k), _ => some k
      | _, some (_, .str k) => some k
      | _, _ => none
    getRef e kind
  | "compile" => do
    let d <- r.compile [] e
    pure (.dict (d.map fun (k, x) => (.str k, x)))
  | "get_dict" => do
    let j <- r.encode false [] (.entity e)
    pure (.ofJson j)
  | "json_dumps" => do
    let pprint := match args.head?, kwargs.find? (·.1 == "pprint") with
      | some p, _ => p.truthy
      | _, some (_, p) => p.truthy
      | _, _ => false
    let sortKeys := match kwargs.find? (·.1 == "sort_keys") with
      | some (_, p) => p.truthy
      | none => match args with
        | [_, s] => s.truthy
        | _ => false
    let j <- r.encode sortKeys [] (.entity e)
    let tight : Json.Layout := { itemSep := ",", keySep := ":" }
    pure (.str (if pprint then render (.pretty 4) j ++ "\n" else render tight j))
  | "get_all_attrs" => do
    let attrs <- allAttrs r e
    pure (.dict (attrs.map fun (k, x) => (.str k, x)))
  | "json_loads" => do
    let bound <- methodArgs e.kind "json_loads" [req "data"] args kwargs
    Decompile.loadJson r (bound.get "data")
  | "clone" => do
    let _ <- methodArgs e.kind "clone" [] args kwargs
    pure (.entity (<- cloneClass classFuel e))
  | "make_bp_dict" => do
    let bound <- methodArgs e.kind "make_bp_dict" [opt "categories" .none] args kwargs
    expandSimpleBlueprint r e (bound.get "categories")
  | "make_single_vm_bp_dict" => do
    let _ <- methodArgs e.kind "make_single_vm_bp_dict" [] args kwargs
    expandSingleVm r e
  | "make_bp_obj" => do
    let _ <- methodArgs e.kind "make_bp_obj" [] args kwargs
    expandVmBlueprint r e
  | "extract_deployment" => do
    let simple <- if e.kind == .simplePodDeployment then do
        let _ <- methodArgs e.kind "extract_deployment" [] args kwargs
        pure true
      else do
        let bound <- methodArgs e.kind "extract_deployment" [opt "is_simple_deployment" (.bool false)] args
          kwargs
        pure (bound.get "is_simple_deployment").truthy
    pure (podDictionary (<- expandPod r e simple))
  | _ => throw (.unsupported ("method " ++ method))

def callValue (r : Runtime) (f : Value) (args : List Value) (kwargs : List (String × Value)) :
    Build Value := do
  match f with
  | .builtin [name] =>
    match builtin? r name with
    | some b =>
      match b.sig.bind args kwargs with
      | .ok bound => b.run bound
      | .error e => throw e
    | none =>
      if name == "branch" then return .builtin ["branch"]
      if !args.isEmpty || !kwargs.isEmpty then
        throw (.wrongType (shortName name ++ "() takes no arguments"))
      pure (.object (shortName name) [])
  | .entity e =>
    if e.kind.isA .action then
      let params := [opt "name" .none]
      let sig : Signature := { qualName := "ActionType.__call__", implicit := 1, params }
      let b <- match Signature.bind sig args kwargs with
        | .ok b => pure b
        | .error err => throw err
      let rb <- entityAttr r e "runbook"
      if rb.truthy then return <- Tasks.callRunbook r rb .none (b.get "name")
      return .none
    if e.kind.isA .runbook then return .none
    if !args.isEmpty || !kwargs.isEmpty then
      throw (.wrongType (e.name ++ "() takes no arguments"))
    pure (.object e.name [])
  | .function fn =>
    if fn.decorator == .plain then
      throw (.unsupported ("calling the plain function " ++ fn.defn.name))
    Flow.callDecorated r fn args kwargs
  | .bound (.entity e) m => callMethod r e m args kwargs
  | .bound (.dict entries) m => callDictMethod entries m args kwargs
  | v => throw (.wrongType ("'" ++ shortName v.typeName ++ "' object is not callable"))

def compileEntity (r : Runtime) (parents : List Entity) (e : Entity) : Build Doc :=
  match e.kind with
  | .calmRef =>
    if ((e.lookup? "__ref_cls__").getD .none).isText "RecoveryPoint" then
      compileRecoveryPoint r parents e
    else References.compile r parents e
  | .endpoint => compileEndpoint r e
  | .variable => compileVariable r e
  | .task => compileTask r e
  | .credential => compileCredential r e
  | .runbookService => compileRunbookService r e
  | .readinessProbe => compileReadinessProbe r e
  | .substrate => compileSubstrate r parents e
  | .ahvNic => compileNic r parents e
  | .ahvDisk => compileDisk r parents e
  | .ahvVmResources | .ahvRecoveryResources => compileResources r e
  | .service => compileService r e
  | .package | .vmDiskPackage => compilePackage r e
  | .profile => compileProfile r e
  | .blueprint => compileBlueprint r e
  | .brownfieldVm => compileBrownfieldVm r parents e
  | .brownfieldDeployment => compileBrownfieldDeployment r e
  | .metadata => compileMetadata r e
  | .environment => compileEnvironment r e
  | .project => compileProject r e
  | .configSpec | .patchConfigSpec | .snapshotConfigSpec | .restoreConfigSpec =>
    compileConfigSpec r e
  | _ => compileGeneric r e

/-- One level of the runtime, in terms of the level below. -/
def step (r : Runtime) : Runtime where
  call := callValue r
  attr := attrOf r
  compile := compileEntity r
  encode := encodeWith r

/-- How deeply the operations of the runtime may nest. -/
def depth : Nat := 400

def runtime : Runtime := Runtime.tie step depth

end Blueprints.Evaluator
