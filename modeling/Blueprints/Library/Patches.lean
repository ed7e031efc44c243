import Blueprints.Library.Protection

namespace Blueprints.Library.Patches
open Build

/-- A patch configuration of `target` with the given attributes to patch. -/
def patchConfig (name target patchAttrs description : Value) : Build Value := do
  let attrs := textDict [("target_any_local_reference", target), ("data", .dict []),
    ("uuid", .str (<- Build.freshId))]
  Protection.configClass .patchConfigSpec [("name", name), ("description", description),
    ("attrs_list", .list [attrs]), ("patch_attrs", .list [patchAttrs]), ("type", .str "PATCH")]

/-- Reports in the log that a patch of `target` is refused when its machines are not AHV
    machines; the configuration is still made. -/
def reportProvider (r : Runtime) (target : Value) : Build Unit := do
  let deployment <- attrOfValue r target "__self__"
  let substrate <- attrOfValue r (<- attrOfValue r deployment "substrate") "__self__"
  let providerType <- attrOfValue r substrate "provider_type"
  if !providerType.isText "AHV_VM" then
    logError ("Config is not supported for " ++ providerType.toText ++
      " provider. Please try again after changing the provider")

/-- A rule class of kind `k` with the given attributes. -/
def ruleClass (k : Kind) (attrs : List (String × Value)) : Build Value := do
  pure (.entity (<- makeClass k .none [] attrs))

/-- A rule about a size: its value, how it may change, its bounds, and whether it may be
    edited. -/
def sizeRule (b : Bound) : Build Value :=
  ruleClass .patchDataField [("value", b.get "value"), ("operation", b.get "operation"),
    ("max_value", b.get "max_val"), ("min_value", b.get "min_val"), ("editable", b.get "editable")]

/-- A category change: each key and value of `data` as `key:value`. -/
def categoryChange (operation : String) (data : Value) : Build Value := do
  let mut names : List Value := []
  for k in <- iterate data do
    names := names ++ [.str (k.toText ++ ":" ++ (<- subscript data k).toText)]
  pure (textDict [("operation", .str operation), ("val", .list names)])

/-- A rule about an existing disk at position `index`. -/
def diskChange (index editable diskOperation operation value low high : Value) : Build Value :=
  ruleClass .ahvDiskRuleset [("index", index), ("editable", editable), ("operation", operation),
    ("disk_operation", diskOperation), ("value", .str value.toText), ("max_value", high),
    ("min_value", low)]

def sizeParams : List (String × Option Value) :=
  [opt "value" (.str "0"), opt "operation" (.str "equal"), opt "max_val" (.int 0),
   opt "min_val" (.int 0), opt "editable" (.bool false)]

/-- The classes and functions of patches, by the names that paths resolve to. -/
def builtin? (r : Runtime) (name : String) : Option Builtin :=
  match name with
  | "PatchField" => some (refusing "PatchField.__new__" "'PatchField' is not callable")
  | "PatchField.Ahv" => some (refusing "PatchField.Ahv.__new__" "'Ahv' is not callable")
  | "PatchField.Ahv.Nics" => some (refusing "PatchField.Ahv.Nics.__new__" "'Nics' is not callable")
  | "PatchField.Ahv.Disks" =>
    some (refusing "PatchField.Ahv.Disks.__new__" "'Disks' is not callable")
  | "PatchField.Ahv.Category" =>
    some (refusing "PatchField.Ahv.Category.__new__" "'Category' is not callable")
  | "PatchField.Ahv.vcpu" | "PatchField.Ahv.memory" | "PatchField.Ahv.numsocket" =>
    some (ctor name sizeParams sizeRule)
  | "PatchField.Ahv.Nics.add" =>
    some (ctor name [req "nic_value", opt "editable" (.bool false)] fun b =>
      ruleClass .ahvNicRuleset [("nic_value", b.get "nic_value"), ("editable", b.get "editable"),
        ("operation", .str "add")])
  | "PatchField.Ahv.Nics.delete" =>
    some (ctor name [opt "index" (.int 0), opt "editable" (.bool false)] fun b =>
      ruleClass .ahvNicRuleset [("index", .str (b.get "index").toText),
        ("editable", b.get "editable"), ("operation", .str "delete")])
  | "PatchField.Ahv.Disks.add" =>
    some (ctor name [req "disk_value", opt "editable" (.bool false)] fun b =>
      ruleClass .ahvDiskRuleset [("disk_value", b.get "disk_value"),
        ("editable", b.get "editable"), ("disk_operation", .str "add"),
        ("operation", .str "equal")])
  | "PatchField.Ahv.Disks.delete" =>
    some (ctor name [opt "index" (.int 0)] fun b =>
      diskChange (b.get "index") (.bool false) (.str "delete") (.str "") (.int 0) (.int 0)
        (.int 0))
  | "PatchField.Ahv.Disks.modify" =>
    some (ctor name [opt "index" (.int 0), opt "editable" (.bool false), opt "value" (.str "0"),
        opt "operation" (.str "equal"), opt "max_val" (.int 0), opt "min_val" (.int 0)] fun b =>
      diskChange (b.get "index") (b.get "editable") (.str "modify") (b.get "operation")
        (b.get "value") (b.get "min_val") (b.get "max_val"))
  | "PatchField.Ahv.Category.add" =>
    some (ctor name [req "data"] fun b => categoryChange "add" (b.get "data"))
  | "PatchField.Ahv.Category.delete" =>
    some (ctor name [req "data"] fun b => categoryChange "delete" (b.get "data"))
  | "AppEdit" => some (refusing "AppEdit.__new__" "'AppEdit' is not callable")
  | "AppEdit.UpdateConfig" =>
    some (ctor name [req "name", req "target", req "patch_attrs"] fun b => do
      reportProvider r (b.get "target")
      patchConfig (b.get "name") (b.get "target") (b.get "patch_attrs") (.str ""))
  | "UpdateConfig" =>
    some (ctor name [req "name", opt "target" .none, opt "patch_attrs" .none] fun b =>
      patchConfig (b.get "name") (b.get "target") (b.get "patch_attrs") (.str ""))
  | _ => none

def member? (owner attr : String) : Option String :=
  let nested : List (String × List String) :=
    [("PatchField", ["Ahv"]),
     ("PatchField.Ahv", ["vcpu", "memory", "numsocket", "Nics", "Disks", "Category"]),
     ("PatchField.Ahv.Nics", ["add", "delete"]),
     ("PatchField.Ahv.Disks", ["add", "delete", "modify"]),
     ("PatchField.Ahv.Category", ["add", "delete"]),
     ("AppEdit", ["UpdateConfig"])]
  match nested.find? (·.1 == owner) with
  | some (_, members) => if members.contains attr then some (owner ++ "." ++ attr) else none
  | none => none

/-- The names of the namespace that this module defines. -/
def names : List String := ["PatchField", "AppEdit", "UpdateConfig"]

end Blueprints.Library.Patches
