import Blueprints.Cli.Runs

namespace Blueprints.Cli

open Library Http Api Build Text

def endpoints : Resource := Resource.named "EndpointAPI" "endpoints"

/-- Uploads an endpoint payload under the name and description given, replacing an endpoint
    of the name when forced to. -/
def uploadEndpointPayload (payload : Value) (name description : Option String) (force : Bool) :
    Build Outcome := do
  let (_, payload) <- popOr payload "status" .none
  let payload <- renamed payload name description
  let spec <- at! payload "spec"
  let resources <- at! spec "resources"
  let epName <- at! spec "name"
  let desc <- at! spec "description"
  uploadEndpoint endpoints epName desc resources (.bool force)

/-- Reports the endpoint that the server stored. -/
def reportEndpoint : Outcome -> Build Unit :=
  reportCreated "Endpoint" "endpoints" (failWithMessages "Endpoint" ".")

def createEndpointFile (r : Runtime) (values : ParamValues) : Build Unit := do
  let _ <- serverSettings
  let file := textValue values "endpoint_file"
  let name := textValue? values "name"
  let description := textValue? values "description"
  let force := flagValue values "force"
  if file.endsWith ".json" then
    reportEndpoint (<- uploadEndpointPayload (<- readJsonFile file) name description force)
  else if file.endsWith ".py" then
    let some payload <- endpointOf r file
      | logError ("User endpoint not found in " ++ file)
    reportEndpoint (<- uploadEndpointPayload (.ofJson payload) name description force)
  else logError ("Unknown file format " ++ file)

/-- Writes an instant of an entity with the time passed since. -/
def instantLine (label : String) (micros : Value) : Build String := do
  let t <- secondsOf micros
  pure (label ++ ": " ++ ctime t ++ " (" ++ ago t ++ ")")

def describeEndpoint (values : ParamValues) : Build Unit := do
  let _ <- serverSettings
  let name := textValue values "endpoint_name"
  let entities <- findByName endpoints ("name==" ++ name) "endpoint" name
  logInfo (name ++ " found ")
  let uuid <- path! (<- subscript entities (.int 0)) ["metadata", "uuid"]
  let ep <- (<- endpoints.read uuid).jsonOrRaise
  if textValue values "out" == "json" then
    let (_, ep) <- popOr ep "status" .none
    return <- printJson ep
  let metadata <- at! ep "metadata"
  let status <- at! ep "status"
  print "\n----Endpoint Summary----\n\n"
  print ("Name: " ++ name ++ " (uuid: " ++ (<- at! metadata "uuid").toText ++ ")\n")
  print ("Description: " ++ (<- at! status "description").toText ++ "\n")
  print ("Status: " ++ (<- at! status "state").toText ++ "\n")
  print ("Owner: " ++ (<- path! metadata ["owner_reference", "name"]).toText)
  let project <- getOr metadata "project_reference" emptyDict
  print (" Project: " ++ (<- getOr project "name" (.str "")).toText ++ "\n")
  print ((<- instantLine "Created" (<- at! metadata "creation_time")) ++ "\n")
  print ((<- instantLine "Last Updated" (<- at! metadata "last_update_time")) ++ "\n\n")
  let resources <- getOr status "resources" emptyDict
  let kind <- getOr resources "type" (.str "")
  let attrs <- getOr resources "attrs" emptyDict
  print ("Type: " ++ kind.toText ++ "\n")
  if kind.equal (.str "HTTP") then
    print ("URL: " ++ (<- getOr attrs "url" (.str "")).toText ++ "\n\n")
  else
    let valueType <- arith .add (<- getOr attrs "value_type" (.str "IP")) (.str "s")
    let targets <- getOr attrs "values" (.list [])
    let count <- getOr resources "element_count" .none
    print ("VM Count: " ++ count.toText ++ "\n")
    print (valueType.toText ++ ": " ++ targets.toText ++ "\n\n")

def deleteEndpoints (values : ParamValues) : Build Unit := do
  let _ <- serverSettings
  for name in textsValue values "endpoint_names" do
    let ep <- endpointNamed name
    let outcome <- endpoints.delete (<- path! ep ["metadata", "uuid"])
    if let some err := outcome.error then raiseError err
    logInfo ("Endpoint " ++ name ++ " deleted")

end Blueprints.Cli
