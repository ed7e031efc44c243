import Blueprints.Cli.Secrets
import Blueprints.Cli.Listing
import Blueprints.Api.Uploads

namespace Blueprints.Cli

open Library Http Api Build Text

/-- Reads a JSON file of the working directory as a value. -/
def readJsonFile (path : String) : Build Value := do
  let text <- Files.readAt (absolutePath path)
    (.system "FileNotFoundError" ("[Errno 2] No such file or directory: " ++ quoted path))
  match Json.parse text with
  | .ok j => pure (.ofJson j)
  | .error e => throw (.notJson (e.render text))

/-- The value of a credential's secret named in the local store, or the one the user gives;
    the user may keep a given value in the store. -/
def secretValue (name : Value) : Build Value := do
  let secrets := (<- get).secretStore
  let stored := match name with
    | .str n => (secrets.find Cipher.aesGcm n).toOption
    | _ => none
  if let some v := stored then return .str v
  print ("\nNo secret corresponding to '" ++ name.toText ++ "' found !!!\n\n")
  let value <- askText { text := "Please enter its value", hide := true }
  let choice <- askText { text := "\nWant to store it locally(y/n)", default := some "n" }
  if choice.startsWith "y" then storeSecret name.toText value
  pure (.str value)

/-- The credentials of a blueprint payload with the secrets they name replaced by their values. -/
def withSecretValues (payload : Value) : Build Value := do
  let spec <- at! payload "spec"
  let resources <- at! spec "resources"
  let creds <- at! resources "credential_definition_list"
  let mut out : List Value := []
  for cred in <- iterate creds do
    let secret <- at! cred "secret"
    if (<- getOr secret "secret" .none).truthy then
      let (name, rest) <- pop secret "secret"
      let value <- secretValue name
      out := out ++ [<- setKey cred "secret" (<- setKey rest "value" value)]
    else out := out ++ [cred]
  let creds := match creds with
    | .list _ => Value.list out
    | other => other
  setKey payload "spec" (<- setKey spec "resources" (<- setKey resources "credential_definition_list" creds))

/-- A payload with the name and the description given on the command line in place of its own. -/
def renamed (payload : Value) (name description : Option String) : Build Value := do
  let mut payload := payload
  if let some n := name.filter (!·.isEmpty) then
    payload <- setKey payload "spec" (<- setKey (<- at! payload "spec") "name" (.str n))
    payload <- setKey payload "metadata" (<- setKey (<- at! payload "metadata") "name" (.str n))
  if let some d := description.filter (!·.isEmpty) then
    payload <- setKey payload "spec" (<- setKey (<- at! payload "spec") "description" (.str d))
  pure payload

/-- Uploads a blueprint payload with its secrets. -/
def uploadBlueprintPayload (payload : Value) (name description : Option String) (force : Bool) :
    Build Outcome := do
  let (_, payload) <- popOr payload "status" .none
  let payload <- withSecretValues payload
  let payload <- renamed payload name description
  let spec <- at! payload "spec"
  let resources <- at! spec "resources"
  let bpName <- at! spec "name"
  let desc <- at! spec "description"
  let metadata <- at! payload "metadata"
  uploadBlueprint (Resource.named "BlueprintAPI" "blueprints") bpName desc resources metadata
    (.bool force)

/-- The project that a blueprint payload read from JSON belongs to: the cached project its
    metadata refers to by uuid, or `default`. -/
def payloadProject (payload : Value) : Build String := do
  let metadata <- getOr payload "metadata" .none
  if !metadata.truthy then return "default"
  let reference <- getOr metadata "project_reference" .none
  if !reference.truthy then return "default"
  let uuid <- getOr reference "uuid" .none
  if !uuid.truthy then return "default"
  match (<- get).cache.projectById? uuid.toText with
  | some p => pure p.name
  | none => pure "default"

/-- The messages of an entity's status: each entry of a `message_list`, with the path of the
    names of the objects above it, joined by dots. The fuel bounds the depth of nesting. -/
def nestedMessages : Nat -> String -> Value -> Build (List Value)
  | 0, _, _ => throw .tooDeep
  | fuel + 1, path, obj => do
    match obj with
    | .list items =>
      let mut out : List Value := []
      for item in items do out := out ++ (<- nestedMessages fuel path item)
      pure out
    | .dict entries =>
      let path := match dictGet? entries "name" with
        | some (.str n) => if n.isEmpty then path else path ++ (if path.isEmpty then "" else ".") ++ n
        | _ => path
      let mut out : List Value := []
      for (key, sub) in entries do
        if key.equal (.str "message_list") then
          for message in <- iterate sub do
            out := out ++ [<- setKey message "path" (.str path)]
        else out := out ++ (<- nestedMessages fuel path sub)
      pure out
    | _ => pure []

/-- The depth of nesting that the messages of a status are looked for in. -/
def messageDepth : Nat := 1000

/-- The address of an entity's page on the server. -/
def consoleLink (collection : String) (uuid : Value) : Build String := do
  let settings <- serverSettings
  pure ("https://" ++ settings.serverValue "pc_ip" ++ ":" ++ settings.serverValue "pc_port" ++
    "/console/#page/explore/calm/" ++ collection ++ "/" ++ uuid.toText)

/-- Shows a created entity by name, address and state. -/
def showCreated (collection : String) (name uuid state : Value) : Build Unit := do
  let link <- consoleLink collection uuid
  printJson (dictOf [("name", name), ("link", .str link), ("state", state)])

/-- Reports the answer to creating an entity of a kind, which the console lists under
    `collection`: the server's error, or the entity with its address and state. An entity that
    is not active stops the program through `failed`, given its name and status. -/
def reportCreated (noun collection : String) (failed : Value -> Value -> Build Unit)
    (outcome : Outcome) : Build Unit := do
  if let some err := outcome.error then
    logError (<- at! err "error").toText
    return
  let created <- outcome.json
  let metadata <- at! created "metadata"
  let uuid <- at! metadata "uuid"
  let name <- at! metadata "name"
  let status <- getOr created "status" emptyDict
  let state <- getOr status "state" (.str "DRAFT")
  if !state.equal (.str "ACTIVE") then failed name status
  logInfo (noun ++ " " ++ name.toText ++ " created successfully.")
  showCreated collection name uuid state

/-- Stops the program with the messages of an entity created with errors, the list of them
    followed by `ending`. -/
def failWithMessages (noun ending : String) (name status : Value) : Build Unit := do
  let messages <- getOr status "message_list" (.list [])
  if !messages.truthy then
    exitWith (noun ++ " " ++ name.toText ++ " created with errors.")
  let mut texts : List Value := []
  for m in <- iterate messages do texts := texts ++ [<- getOr m "message" (.str "")]
  exitWith (noun ++ " " ++ name.toText ++ " created with " ++
    toString texts.length ++ " error(s): " ++ (Value.list texts).repr ++ ending)

/-- Reports the blueprint that the server stored. -/
def reportBlueprint : Outcome -> Build Unit :=
  reportCreated "Blueprint" "blueprints" fun name status => do
    let messages <- nestedMessages messageDepth "" status
    if messages.isEmpty then
      exitWith ("Blueprint " ++ name.toText ++ " created with errors.")
    let mut texts : List String := []
    for m in messages do
      let path <- getOr m "path" (.str "")
      let lead <- if path.truthy then arith .add path (.str ": ") else pure (.str "")
      texts := texts ++ [(<- arith .add lead (<- getOr m "message" (.str ""))).toText]
    logError ("Blueprint " ++ name.toText ++ " created with " ++
      toString messages.length ++ " error(s):")
    print ("\n".intercalate texts ++ "\n")
    throw (.exit "-1")

def createBlueprintFile (r : Runtime) (values : ParamValues) : Build Unit := do
  let _ <- serverSettings
  let file := textValue values "bp_file"
  let name := textValue? values "name"
  let description := textValue? values "description"
  let force := flagValue values "force"
  if file.endsWith ".json" then
    let payload <- readJsonFile file
    let configured <- contextProject
    if (<- payloadProject payload) != configured then
      logWarning ("Project in supplied json is different from configured project('" ++
        configured ++ "')")
    reportBlueprint (<- uploadBlueprintPayload payload name description force)
  else if file.endsWith ".py" then
    let some payload <- blueprintOf r file none
      | logError ("User blueprint not found in " ++ file)
    let payload := .ofJson payload
    let resources <- path! payload ["spec", "resources"]
    if (<- getOr resources "type" (.str "")).equal (.str "BROWNFIELD") then
      exitWith ("Command not allowed for brownfield blueprints. Please use 'calm create " ++
        "app -f <bp_file_location>' for creating brownfield application")
    reportBlueprint (<- uploadBlueprintPayload payload name description force)
  else logError ("Unknown file format " ++ file)

/-- Uploads a runbook payload with its secrets. -/
def uploadRunbookPayload (payload : Value) (name description : Option String) (force : Bool) :
    Build Outcome := do
  let (_, payload) <- popOr payload "status" .none
  let payload <- renamed payload name description
  let spec <- at! payload "spec"
  let resources <- at! spec "resources"
  let rbName <- at! spec "name"
  let desc <- at! spec "description"
  uploadRunbook (Resource.named "RunbookAPI" "runbooks") rbName desc resources (.bool force)

/-- Reports the runbook that the server stored. -/
def reportRunbook : Outcome -> Build Unit :=
  reportCreated "Runbook" "runbooks" (failWithMessages "Runbook" "")

def createRunbookFile (r : Runtime) (values : ParamValues) : Build Unit := do
  let _ <- serverSettings
  let file := textValue values "runbook_file"
  let name := textValue? values "name"
  let description := textValue? values "description"
  let force := flagValue values "force"
  if file.endsWith ".json" then
    reportRunbook (<- uploadRunbookPayload (<- readJsonFile file) name description force)
  else if file.endsWith ".py" then
    let some payload <- runbookOf r file
      | logError ("User runbook not found in " ++ file)
    reportRunbook (<- uploadRunbookPayload (.ofJson payload) name description force)
  else logError ("Unknown file format " ++ file)

end Blueprints.Cli
