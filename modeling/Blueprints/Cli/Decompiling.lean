import Blueprints.Cli.Apps
import Blueprints.Source.File
import Blueprints.Cli.Formatting

namespace Blueprints.Cli

open Library Http Api Build Text

def blueprintsApi : Resource := Resource.named "BlueprintAPI" "blueprints"

/-- The uuid of the one blueprint of a name that is not deleted; none, or more than one, ends
    the command. -/
def blueprintUuidNamed (name : String) : Build Value := do
  let filter := "name==" ++ name ++ ";state!=DELETED"
  let response <- (<- blueprintsApi.list (dictOf [("filter", .str filter)])).jsonOrRaise
  let entities <- getOr response "entities" .none
  if !entities.truthy then
    let message := "No blueprint found with name " ++ name ++ " found"
    logError message
    throw (.exit message)
  if (<- lengthOf entities) != 1 then
    exitWith ("More than one blueprint found - " ++ entities.toText)
  logInfo (name ++ " found ")
  path! (<- subscript entities (.int 0)) ["metadata", "uuid"]

/-- Fills in the local files of secrets from the standard input, each answer hidden. -/
def askSecretFiles (files : List String) : Source.Writer Unit := do
  if files.isEmpty then return
  echo "Enter the value to be used in secret files"
  for file in files do
    let value <- askValue ("\nValue for " ++ file) (.str "") true fun v => pure (.ok v.toText)
    Source.writeFile (".local/" ++ file) value

/-- Writes a blueprint class as a blueprint project in a directory: the directory with its
    local, specification and script folders, the files beside the source as they are made, and
    the source laid out in the standard layout. With `withSecrets` the local files of secrets
    are filled in from the standard input. -/
def writeBlueprintDir (r : Runtime) (cls : Entity) (metadata : Option Entity) (dir : String)
    (withSecrets : Bool) : Build Unit := do
  logInfo "Creating blueprint directory"
  logInfo "Rendering blueprint file template"
  let ask := if withSecrets then askSecretFiles else fun _ => pure ()
  let (text, _) <- (Source.blueprintFile r cls metadata ask).run { directory := some dir }
  logInfo "Formatting blueprint file using black"
  let laid <- match Layout.layout text with
    | .ok t => pure t
    | .error e => throw (layoutFault e)
  logInfo "Creating blueprint file"
  Library.Files.writeAt (joinPath dir "blueprint.py") laid

/-- Reports where a blueprint was read back to. -/
def reportDecompiled (dir : String) : Build Unit :=
  echo ("\nSuccessfully decompiled. Directory location: " ++ dir ++ ". Blueprint location: " ++
    joinPath dir "blueprint.py")

/-- Refuses substrates that cannot be read back, and warns once about providers that are read
    back only experimentally. -/
def checkSubstrates (resources : Value) : Build Unit := do
  for sub in <- iterate (<- getOr resources "substrate_definition_list" .none) do
    let given <- getOr sub "type" (.str "")
    let kind := if given.truthy then given else .str "AHV_VM"
    if kind.isText "K8S_POD" then
      throw (.system "NotImplementedError" "Decompilation for k8s pod is not supported right now")
    if !kind.isText "AHV_VM" then
      logWarning "Decompilation support for providers other than AHV is experimental."
      break

/-- A blueprint payload read back as classes and written as a blueprint project, in the given
    directory or else in one named after the blueprint. -/
def decompilePayload (r : Runtime) (payload : Value) (pre : String) (withSecrets : Bool)
    (dir : Option String) : Build Unit := do
  let spec <- at! payload "spec"
  let resources <- at! spec "resources"
  let name <- getOr spec "name" (.str "DslBlueprint")
  let description <- getOr spec "description" (.str "")
  let metadata <- at! payload "metadata"
  let metadata := (<- popOr metadata "creation_time" .none).2
  let metadata := (<- popOr metadata "last_update_time" .none).2
  let metaClass <- Decompile.decompile r .metadata metadata
  let names <- getOr (<- at! resources "client_attrs") "None" emptyDict
  if names.truthy then
    let map <- match names.toJson with
      | .ok j => pure j
      | .error f => throw f
    modify fun s => { s with displayMap := map }
  logInfo ("Decompiling blueprint " ++ name.toText)
  checkSubstrates resources
  let pre <- Decompile.identifierOf (.str pre)
  let cls <- Decompile.decompile r .blueprint resources pre.toText
  let className <- Decompile.identifierOf name
  let cls := Entity.mk cls.kind className.toText (some description.toText) cls.attrs cls.bases
  let dir := (dir.filter (!·.isEmpty)).getD (joinPath workingDirMarker className.toText)
  writeBlueprintDir r cls (some metaClass) dir withSecrets
  reportDecompiled dir

def decompileBlueprint (r : Runtime) (values : ParamValues) : Build Unit := do
  let name := (textValue? values "name").filter (!·.isEmpty)
  let file := (textValue? values "bp_file").filter (!·.isEmpty)
  let pre := textValue values "prefix"
  let withSecrets := flagValue values "with_secrets"
  let dir := textValue? values "bp_dir"
  match name, file with
  | some n, none =>
    let _ <- serverSettings
    let uuid <- blueprintUuidNamed n
    let blueprint <- (<- blueprintsApi.read uuid).jsonOrRaise
    let endpoint := blueprintsApi.item (<- path! blueprint ["metadata", "uuid"]) ++ "/export_file"
    let payload <- (<- Call.send { method := .get, endpoint }).jsonOrRaise
    decompilePayload r payload pre withSecrets dir
  | none, some f => decompilePayload r (<- readJsonFile f) pre withSecrets dir
  | _, _ => exitWith "Please provide either blueprint file location or server blueprint name"

end Blueprints.Cli
