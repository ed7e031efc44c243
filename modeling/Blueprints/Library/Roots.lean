import Blueprints.Entity.Object

namespace Blueprints.Library

/-- The position of a kind's root class in the order in which the library defines them. -/
def rootNumber : Kind -> Nat
  | .descriptor => 1 | .metadata => 2 | .variable => 3 | .task => 4 | .credential => 5
  | .endpoint => 6 | .runbook => 7 | .action => 8 | .port => 9 | .service => 10
  | .publishedService => 11 | .package => 12 | .readinessProbe => 13
  | .ahvVmResources => 14 | .ahvVm => 15 | .ahvRecoveryResources => 16
  | .ahvRecoverySpec => 17 | .substrate => 18 | .deployment => 19 | .podDeployment => 20
  | .ahvDiskRuleset => 21 | .ahvNicRuleset => 22 | .patchDataField => 23 | .configAttrs => 24
  | .profile => 25 | .blueprint => 26 | .simpleDeployment => 27 | .simplePodDeployment => 28
  | .simpleBlueprint => 29 | .blueprintPayload => 30 | .environment => 31
  | .environmentPayload => 32 | .project => 33 | .projectPayload => 34
  | .brownfieldDeployment => 35 | .vmProfile => 36 | .vmBlueprint => 37
  | .jobScheduleInfo => 38 | .jobExecutable => 39 | .job => 40 | .runbookService => 41
  | _ => 0

def rootName (k : Kind) : String :=
  let n := rootNumber k
  let hex := String.ofList (Nat.toDigits 16 n)
  "_" ++ k.schemaName ++ String.ofList (List.replicate (8 - hex.length) '0') ++ hex

/-- The root class of a kind, with every default of the kind. -/
def root (k : Kind) : Build Entity :=
  Entity.create k (some (rootName k)) [] none []

/-- A function with an empty body that defines a system action of the same name. -/
def systemActionStub (funcName : String) : Value :=
  .function (.mk .action { name := funcName, params := [], doc := none, body := [.pass] } []
    [("action_name", .str funcName), ("action_description", .str ""),
     ("task_target_mapping", .dict []), ("imported_action", .bool false)])

/-- The service class of the namespace: the root service with the six system actions. -/
def baseService : Build Entity := do
  let svc <- root .service
  pure (.mk .service "BaseService" none
    (["__create__", "__start__", "__stop__", "__delete__", "__restart__", "__soft_delete__"].map
      fun n => (n, systemActionStub n)) [svc])

end Blueprints.Library
