import Blueprints.Kinds.Core
import Blueprints.Text.Number
import Blueprints.Value.Operators

namespace Blueprints.Kinds

open Library Text

def mibPerGib : Int := 1024

/-- A size in GiB, given as a number or as text, in MiB and as the text of an integer: the size
    times 1024, cut toward zero. -/
def mibText (v : Value) : Build String := do
  let d <- match v with
    | .str s =>
      match Text.NumberText.read? s with
      | some (.finite d) => pure d
      | some (.infinite _) => throw (.overflow "cannot convert float infinity to integer")
      | some .notANumber => throw (.badValue "cannot convert float NaN to integer")
      | none => throw (.badValue ("could not convert string to float: " ++ v.repr))
    | v =>
      match v.decimal? with
      | some d => pure d
      | none => throw (.wrongType ("float() argument must be a string or a real number, not '" ++
          v.typeName ++ "'"))
  pure (toString (truncateDecimal (d.mul (Decimal.ofInt mibPerGib))))

def positionOf (v : Value) : Build Value := do
  match v with
  | .str s =>
    match readInt? s with
    | some n => pure (.int n)
    | none => throw (.badValue ("invalid literal for int() with base 10: " ++ v.repr))
  | .int _ => pure v
  | .bool b => pure (.int (if b then 1 else 0))
  | v => throw (.wrongType ("int() argument must be a string, a bytes-like object or a real " ++
      "number, not '" ++ v.typeName ++ "'"))

/-- `d[k1][k2]...[kn] = x` on nested dictionaries. -/
def setPath (d : Value) (path : List String) (x : Value) : Build Value := do
  match path with
  | [] => pure x
  | k :: rest =>
    match d with
    | .dict entries =>
      let inner <- if rest.isEmpty then pure .none
        else subscript d (.str k)
      pure (.dict (dictPut entries k (<- setPath inner rest x)))
    | v => throw v.noItemAssignment

/-- A compiled dictionary as a dictionary value. -/
def docValue (d : Doc) : Value := .dict (d.map fun (k, v) => (.str k, v))

/-- The compiled dictionary of the class a value holds. -/
def compiledValue (r : Runtime) (v : Value) : Build Value := do
  match v with
  | .entity e => pure (docValue (<- r.compile [] e))
  | v => throw (v.noAttribute "compile")

/-- All attributes of a class, defaults included, by name. -/
def allAttrsValue (r : Runtime) (v : Value) : Build Value := do
  match v with
  | .entity e => pure (textDict (<- allAttrs r e))
  | v => throw (v.noAttribute "get_all_attrs")

/-- The part `listName` (`disks`, `nics`) of the resources of the machine that a target
    deployment runs on. -/
def targetParts (r : Runtime) (target : Value) (listName : String) : Build Value := do
  let deployment <- attrOfValue r target "__self__"
  let substrate <- attrOfValue r (<- attrOfValue r deployment "substrate") "__self__"
  let spec <- attrOfValue r substrate "provider_spec"
  let resources <- attrOfValue r spec "resources"
  attrOfValue r resources listName

/-- The rule of one category change per category named. -/
def categoryRules (r : Runtime) (categories : Value) : Build (List Value) := do
  let mut out : List Value := []
  for change in <- iterate categories do
    let operation <- subscript change (.str "operation")
    for v in <- iterate (<- subscript change (.str "val")) do
      out := out ++ [textDict [("operation", operation), ("value", v)]]
  pure out

/-- The memory rule with its sizes in MiB. -/
def memoryInMib (r : Runtime) (memory : Value) : Build Value := do
  let .entity m := memory
    | throw (memory.noAttribute "min_value")
  let mut m := m
  let low <- attrOfValue r (.entity m) "min_value"
  if low.truthy then m <- m.set "min_value" (<- arith .mul low (.int mibPerGib))
  let high <- attrOfValue r (.entity m) "max_value"
  if high.truthy then m <- m.set "max_value" (<- arith .mul high (.int mibPerGib))
  let size <- attrOfValue r (.entity m) "value"
  if size.truthy then m <- m.set "value" (.str (<- mibText size))
  pure (.entity m)

/-- The rules of the disks: each disk of the target or new disk, with its operation, its place
    on its adapter and its size rule. -/
def diskRules (r : Runtime) (target : Value) (disks : Value) : Build (List Value) := do
  let mut out : List Value := []
  let mut counters : List (String × Int) := []
  for disk in <- iterate disks do
    let diskOperation <- attrOfValue r disk "disk_operation"
    let mut val <- if diskOperation.isText "delete" || diskOperation.isText "modify" then do
        let index <- attrOfValue r disk "index"
        compiledValue r (<- subscript (<- targetParts r target "disks") index)
      else if diskOperation.isText "add" then do
        compiledValue r (<- attrOfValue r disk "disk_value")
      else throw (.unsupported "disk rules of other operations")
    val <- setPath val ["operation"] diskOperation
    let adapter <- subscript (<- subscript (<- subscript val (.str "device_properties"))
      (.str "disk_address")) (.str "adapter_type")
    let mut operation <- attrOfValue r disk "operation"
    if !operation.isText "add" then
      let key := adapter.toText
      let index : Int := match counters.find? (·.1 == key) with
        | some (_, n) => n + 1
        | none => 0
      counters := upsert counters key index
      val <- setPath val ["device_properties", "disk_address", "device_index"] (.int index)
    if operation.isText "" then operation := .str "equal"
    let editable <- attrOfValue r disk "editable"
    let size <- attrOfValue r disk "value"
    if size.truthy && !size.isText "0" then
      val <- setPath val ["disk_size_mib"] (textDict [("editable", editable),
        ("operation", operation), ("value", .str (<- mibText size))])
    else
      let previous <- subscript val (.str "disk_size_mib")
      match previous with
      | .dict _ => pure ()
      | p =>
        val <- setPath val ["disk_size_mib"] (textDict [("editable", editable),
          ("operation", operation), ("value", .str p.toText)])
    let low <- attrOfValue r disk "min_value"
    if low.truthy then
      val <- setPath val ["disk_size_mib", "min_value"] (<- arith .mul low (.int mibPerGib))
    let high <- attrOfValue r disk "max_value"
    if high.truthy then
      val <- setPath val ["disk_size_mib", "max_value"] (<- arith .mul high (.int mibPerGib))
    let rule := match val with
      | .dict entries => Value.dict (dictDrop entries "bootable")
      | v => v
    out := out ++ [rule]
  pure out

/-- The rules of the network cards: each card of the target or new card, with its operation,
    whether it may be edited, and its identifier. -/
def nicRules (r : Runtime) (target : Value) (nics : Value) : Build (List Value) := do
  let mut out : List Value := []
  let mut counter : Nat := 1
  for nic in <- iterate nics do
    let operation <- attrOfValue r nic "operation"
    let mut identifier <- attrOfValue r nic "index"
    let mut val <- if operation.isText "delete" || operation.isText "modify" then do
        let position <- positionOf identifier
        compiledValue r (<- subscript (<- targetParts r target "nics") position)
      else if operation.isText "add" then do
        let v <- compiledValue r (<- attrOfValue r nic "nic_value")
        identifier := .str ("A" ++ toString counter)
        counter := counter + 1
        pure v
      else throw (.unsupported "nic rules of other operations")
    val <- setPath val ["operation"] operation
    val <- setPath val ["editable"] (<- attrOfValue r nic "editable")
    val <- setPath val ["identifier"] (.str identifier.toText)
    out := out ++ [val]
  pure out

/-- The rules of a patch configuration's attributes, for the configuration's target. -/
def patchRules (r : Runtime) (attrs target : Value) : Build Value := do
  let categories <- categoryRules r (<- attrOfValue r attrs "categories")
  let memory <- memoryInMib r (<- attrOfValue r attrs "memory")
  let disks <- diskRules r target (<- attrOfValue r attrs "disks")
  let nics <- nicRules r target (<- attrOfValue r attrs "nics")
  let nicDelete <- attrOfValue r attrs "nic_delete"
  let categoriesDelete <- attrOfValue r attrs "categories_delete"
  let categoriesAdd <- attrOfValue r attrs "categories_add"
  let diskDelete <- attrOfValue r attrs "disk_delete"
  let sockets <- allAttrsValue r (<- attrOfValue r attrs "numsocket")
  let memoryRule <- allAttrsValue r memory
  let vcpus <- allAttrsValue r (<- attrOfValue r attrs "vcpu")
  pure (textDict [("type", .str "nutanix"), ("nic_delete_allowed", nicDelete),
    ("categories_delete_allowed", categoriesDelete), ("categories_add_allowed", categoriesAdd),
    ("disk_delete_allowed", diskDelete), ("num_sockets_ruleset", sockets),
    ("memory_size_mib_ruleset", memoryRule), ("num_vcpus_per_socket_ruleset", vcpus),
    ("pre_defined_disk_list", .list disks), ("pre_defined_nic_list", .list nics),
    ("pre_defined_categories", .list categories)])

/-- A configuration's compiled dictionary: a patch configuration's attributes become the rules
    in the data of its first attribute entry; without any, no patch attributes are given. -/
def compileConfigSpec (r : Runtime) (e : Entity) : Build Doc := do
  let d <- compileGeneric r e
  let some patches := d.field? "patch_attrs" | return d
  let items <- iterate patches
  let d := d.remove "patch_attrs"
  let some attrs := items.head? | return d
  let attrsList := d.field "attrs_list"
  let first <- subscript attrsList (.int 0)
  let target <- subscript first (.str "target_any_local_reference")
  let data <- patchRules r attrs target
  let first' <- setPath first ["data"] data
  let rest := match attrsList with
    | .list (_ :: rest) => rest
    | _ => []
  pure (d.put "attrs_list" (.list (first' :: rest)))

end Blueprints.Kinds
