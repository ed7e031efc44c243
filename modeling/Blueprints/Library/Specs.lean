import Blueprints.Library.Entities
import Blueprints.Value.Operators

namespace Blueprints.Library.Specs
open Files

/-- The image type that a disk of a device type takes. -/
def imageTypeOf (deviceType : Value) : Build String :=
  if deviceType.isText "DISK" then pure "DISK_IMAGE"
  else if deviceType.isText "CDROM" then pure "ISO_IMAGE"
  else throw (.missingKey deviceType.repr)

/-- A list with its item at position `j` replaced. -/
def replaceAt (items : List Value) (j : Nat) (v : Value) : List Value :=
  items.set j v

/-- The disk at a position counted from one, and its index in the list; positions below one
    count from the end, as indices of lists do. -/
def diskAt (disks : List Value) (position : Value) : Build (Value × Nat) := do
  let .int p := position
    | throw (.wrongType ("'>' not supported between instances of '" ++ position.typeName ++
        "' and 'int'"))
  if p > disks.length then throw (.badValue ("invalid disk address (" ++ toString p ++ ")"))
  let disk <- itemAt disks (p - 1) "list"
  let j := if p - 1 < 0 then p - 1 + disks.length else p - 1
  pure (disk, j.toNat)

/-- The disk with the image of a downloadable image class as its data source. -/
def placeImage (r : Runtime) (disk : Value) (position : Value) (image : Value) : Build Value := do
  let .dict entries := disk
    | throw (.wrongType ("argument of type '" ++ disk.typeName ++ "' is not iterable"))
  if !(entries.any (·.1.isText "data_source_reference")) then
    throw (.badValue ("unable to set downloadable image in disk " ++ position.toText))
  let .entity cls := image
    | throw (image.noAttribute "compile")
  let pkg <- r.compile [] cls
  let imageType <- subscript (<- subscript (pkg.field "options") (.str "resources")) (.str "image_type")
  let diskType <- imageTypeOf (<- subscript (<- subscript disk (.str "device_properties"))
    (.str "device_type"))
  if !imageType.isText diskType then
    throw (.wrongType ("image type mismatch in disk " ++ position.toText))
  let ref <- r.call (<- r.attr image "get_ref") [] []
  let refDoc <- match ref with
    | .entity e => r.compile [] e
    | _ => throw (ref.noAttribute "compile")
  pure (.dict (dictPut entries "data_source_reference" (textDict refDoc)))

/-- A Nutanix specification with downloadable images placed in its disks. -/
def placeImages (r : Runtime) (spec : Value) (packages : Value) : Build Value := do
  let resources <- subscript spec (.str "resources")
  let disks <- match <- Entities.getOr resources "disk_list" (.list []) with
    | .list xs => pure xs
    | v => throw (.wrongType ("object of type '" ++ v.typeName ++ "' has no len()"))
  let .dict pairs := packages
    | throw (packages.noAttribute "items")
  let mut disks := disks
  for (position, image) in pairs do
    let (disk, j) <- diskAt disks position
    disks := replaceAt disks j (<- placeImage r disk position image)
  match spec, resources with
  | .dict es, .dict res =>
    -- a disk list that the specification does not have is not added to it
    if res.any (·.1.isText "disk_list") then
      pure (.dict (dictPut es "resources" (.dict (dictPut res "disk_list" (.list disks)))))
    else pure spec
  | _, _ => pure spec

/-- A VMware specification whose template is named after a class. -/
def nameTemplate (spec : Value) (template : Value) : Build Value := do
  let name <- match template with
    | .entity e => pure e.name
    | .object cls _ => pure cls
    | v => throw (v.noAttribute "__name__")
  match spec with
  | .dict es => pure (.dict (dictPut es "template" (.str name)))
  | v => throw v.noItemAssignment

/-- The functions of this module, by name. -/
def builtin? (r : Runtime) (name : String) : Option Builtin :=
  match name with
  | "read_spec" => some (fn name [req "filename", opt "depth" (.int 1)] fun b =>
      readSpec (b.get "filename"))
  | "read_provider_spec" => some (fn name [req "filename"] fun b => do
      pure (Entities.providerSpec (<- readSpec (b.get "filename"))))
  | "read_ahv_spec" => some (fn name [req "filename", opt "disk_packages" (.dict [])] fun b => do
      let spec <- readSpec (b.get "filename")
      let packages := b.get "disk_packages"
      let spec <- if packages.truthy then placeImages r spec packages else pure spec
      pure (Entities.providerSpec spec))
  | "read_vmw_spec" => some (fn name [req "filename", opt "vm_template" .none] fun b => do
      let spec <- readSpec (b.get "filename")
      let template := b.get "vm_template"
      let spec <- if template.truthy then nameTemplate spec template else pure spec
      pure (Entities.providerSpec spec))
  | _ => none

/-- The names of the functions of this module. -/
def names : List String := ["read_spec", "read_provider_spec", "read_ahv_spec", "read_vmw_spec"]

end Blueprints.Library.Specs
