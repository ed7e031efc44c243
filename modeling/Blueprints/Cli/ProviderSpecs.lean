import Blueprints.Cli.Apps

namespace Blueprints.Cli

open Library Http Api Build

def projects : Resource := Resource.named "ProjectAPI" "projects"

/-- Asks for the number of one of a list's items, from 1, until the answer is one; answers the
    item. -/
def chooseByIndex (question : String) (count : Nat) : Build Nat := do
  let rounds := ((<- get).input.splitOn "\n").length + 2
  for _ in List.range rounds do
    let answer <- askValue (question ++ " [1]") (.int 1) false (convertLikeSample (.int 1))
    match answer with
    | .int n =>
      if n > count || n ≤ 0 then echo "Invalid index !!! "
      else return (n.toNat - 1)
    | _ => echo "Invalid index !!! "
  throw .aborted

/-- The project a machine's spec is made for: the user picks it among the server's projects,
    and it is read in full. `none` when the server has no project and the command ends
    quietly. -/
def chooseSpecProject (nutanix : Bool) : Build (Option Value) := do
  let params := if nutanix then dictOf [("length", .int 1000), ("offset", .int 0)] else emptyDict
  let map <- projects.nameUuidMap params
  let names <- match map with
    | .dict entries => pure entries
    | _ => pure []
  if names.isEmpty then
    if nutanix then exitWith "No projects found! Please add one."
    echo "No projects found!!!"
    echo "Please add first"
    return none
  echo (if nutanix then "Choose from given projects:" else "\nChoose from given projects:")
  for ((name, _), i) in names.zipIdx do
    echo ("\t " ++ toString (i + 1) ++ ". " ++ name.toText)
  let chosen <- chooseByIndex "\nEnter the index of project" names.length
  let (name, uuid) := names.getD chosen (.none, .none)
  echo (name.toText ++ " selected")
  some <$> (<- projects.read uuid).jsonOrRaise

def createProviderSpec (values : ParamValues) : Build Unit := do
  match textValue values "provider_type" with
  | "EXISTING_VM" =>
    let address <- askValue "Enter the address : []" (.str "") false
      (convertLikeSample (.str ""))
    print "\nCreate spec for your Existing Machine VM:\n\n"
    print (Yaml.render {} (.obj [("address", .str address.toText)]) ++ "\n")
  | "K8S_POD" => throw (.system "NotImplementedError" "Create spec not implemented")
  | kind =>
    let _ <- serverSettings
    let some _ <- chooseSpecProject (kind == "AHV_VM") | return
    throw (.unsupported ("the questions of a spec for " ++ kind))

end Blueprints.Cli
