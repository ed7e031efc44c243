import Blueprints.Library.References

namespace Blueprints.Library.Protection
open Build Http

/-- The text a value gives as a filter of the cache: the text itself, or nothing for a false
    value; other values match nothing. -/
def filterOf (v : Value) : Option String :=
  match v with
  | .str s => some s
  | v => if v.truthy then none else some ""

/-- The protection policy `name` of the project, with its rule of the given name or uuid. -/
def protectionPolicy (name ruleName ruleUuid : Value) : Build Value := do
  let project <- References.currentProject
  let cache := (<- get).cache
  let found := match name, filterOf ruleName, filterOf ruleUuid with
    | .str n, some rn, some ru => cache.protectionPolicy? n project.name rn ru
    | _, _, _ => none
  let some policy := found
    | do
      logError ("Protection Policy " ++ name.toText ++ " not found. Please run: calm update cache")
      throw (.exit ("Protection policy " ++ name.toText ++ " does not exist"))
  pure (textDict [("kind", .str "app_protection_policy"), ("name", .str policy.name),
    ("uuid", .str policy.uuid), ("rule_uuid", .str policy.ruleUuid)])

/-- A runtime variable that must be given, holding `value`. -/
def runtimeVariable (r : Runtime) (value : Value) (name : String) : Build Value :=
  r.call (.builtin ["CalmVariable.Simple"]) [value]
    [("name", .str name), ("runtime", .bool true), ("is_mandatory", .bool true)]

/-- A configuration class of kind `k`, made on an unnamed base class of that kind. -/
def configClass (k : Kind) (attrs : List (String × Value)) : Build Value := do
  let base <- makeClass k .none [] []
  let name := ((attrs.find? (·.1 == "name")).map (·.2)).getD .none
  pure (.entity (<- makeClass k name [base] attrs))

/-- A restore configuration of `target`'s machines. -/
def restoreConfig (r : Runtime) (name target deleteAfter description : Value) : Build Value := do
  let attrs := textDict [("target_any_local_reference", target),
    ("delete_vm_post_restore", deleteAfter), ("snapshot_location_type", .str "LOCAL")]
  let snapshots <- runtimeVariable r (.str "") "snapshot_uuids"
  let delete <- runtimeVariable r (.str deleteAfter.toText.toLower) "delete_vm_post_restore"
  configClass .restoreConfigSpec [("name", name), ("description", description),
    ("attrs_list", .list [attrs]), ("type", .str ""), ("variables", .list [snapshots, delete])]

/-- The path of a protection policy on the server. -/
def policyPath (uuid : Value) : String := "api/calm/v3.0/app_protection_policies/" ++ uuid.toText

/-- The rule of a protection policy that a snapshot uses, read from the server: the rule of the
    given uuid, or the policy's first rule when none is given. Gives the reference to the rule
    and where its snapshots are kept: remotely when the rule retains snapshots remotely. -/
def policyRule (policy rule : Value) : Build (Value × String) := do
  let uuid <- match policy with
    | .dict es => pure ((dictGet? es "uuid").getD .none)
    | _ => pure .none
  let outcome <- Http.Call.send { method := .get, endpoint := policyPath uuid }
  if let some err := outcome.error then
    let code <- at! err "code"
    let message <- at! err "error"
    logError ("[" ++ code.toText ++ "] - " ++ message.toText)
    throw (.exit "Unable to retrieve protection policy details")
  let res <- outcome.json
  let rules <- iterate (<- at! (<- at! (<- at! res "status") "resources")
    "app_protection_rule_list")
  let remote (pr : Value) : Bool := match pr with
    | .dict es => ((dictGet? es "remote_snapshot_retention_policy").getD .none).truthy
    | _ => false
  let field (pr : Value) (k : String) : Value := match pr with
    | .dict es => (dictGet? es k).getD .none
    | _ => .none
  let chosen : Option Value :=
    if !rule.truthy then rules.head?
    else rules.foldl (fun acc pr => if (field pr "uuid").equal rule then some pr else acc) none
  match chosen with
  | some pr =>
    let uuid := if rule.truthy then rule else field pr "uuid"
    pure (textDict [("kind", .str "app_protection_rule"), ("uuid", uuid), ("name", field pr "name")],
      if remote pr then "REMOTE" else "LOCAL")
  | none =>
    let policyName <- at! (<- at! res "metadata") "name"
    logError ("No Protection Rule " ++ rule.toText ++ " found under Protection Policy " ++
      policyName.toText)
    throw (.exit "Invalid protection rule")

/-- A crash-consistent snapshot configuration of `target`'s machines, restored with
    `restoreWith` when one is given. With a protection policy, the snapshot follows one of the
    policy's rules, which the server is asked for. -/
def snapshotConfig (r : Runtime) (name target replicas restoreWith policy description : Value) :
    Build Value := do
  let references : List Value := if restoreWith.truthy then [restoreWith] else []
  let (location, extra) <- if policy.truthy then do
      let (rule, policy) := match policy with
        | .dict es => ((dictGet? es "rule_uuid").getD .none, Value.dict (dictDrop es "rule_uuid"))
        | other => (.none, other)
      let (ruleRef, location) <- policyRule policy rule
      pure (location, [("app_protection_policy_reference", policy),
        ("app_protection_rule_reference", ruleRef)])
    else pure ("LOCAL", [])
  let attrs := textDict ([("target_any_local_reference", target),
    ("snapshot_location_type", .str location), ("num_of_replicas", replicas)] ++ extra)
  let snapshotName <- runtimeVariable r name "snapshot_name"
  let snapshotType <- runtimeVariable r (.str "CRASH_CONSISTENT") "snapshot_type"
  configClass .snapshotConfigSpec [("name", name), ("description", description),
    ("attrs_list", .list [attrs]), ("type", .str ""),
    ("variables", .list [snapshotName, snapshotType]), ("config_references", .list references)]

/-- The parameters of the snapshot configuration classes. -/
def snapshotParams : List (String × Option Value) :=
  [req "name", opt "target" .none, opt "num_of_replicas" (.str "ONE"), opt "restore_config" .none,
   opt "policy" .none, opt "description" (.str "")]

/-- The protection classes, by the names that paths resolve to. -/
def builtin? (r : Runtime) (name : String) : Option Builtin :=
  let snapshot : Builtin := ctor name snapshotParams fun b =>
    snapshotConfig r (b.get "name") (b.get "target") (b.get "num_of_replicas")
      (b.get "restore_config") (b.get "policy") (b.get "description")
  match name with
  | "AppProtection" => some (refusing "AppProtection.__new__" "'AppProtection' is not callable")
  | "AppProtection.ProtectionPolicy" =>
    some { sig := { qualName := name ++ ".__new__", params := [req "name"], implicit := 1,
                    varKw := true }
           run := fun b => protectionPolicy (b.get "name") ((b.extra? "rule_name").getD .none)
             ((b.extra? "rule_uuid").getD .none) }
  | "AppProtection.SnapshotConfig" => some snapshot
  | "AppProtection.SnapshotConfig.CrashConsistent" => some snapshot
  | "AppProtection.RestoreConfig" =>
    some (ctor name [req "name", opt "target" .none, opt "delete_vm_post_restore" (.bool false),
        opt "description" (.str "")] fun b =>
      restoreConfig r (b.get "name") (b.get "target") (b.get "delete_vm_post_restore")
        (b.get "description"))
  | _ => none

/-- The members of `AppProtection` and of its snapshot configuration class. -/
def member? (owner attr : String) : Option String :=
  match owner, attr with
  | "AppProtection", "ProtectionPolicy" => some "AppProtection.ProtectionPolicy"
  | "AppProtection", "SnapshotConfig" => some "AppProtection.SnapshotConfig"
  | "AppProtection", "RestoreConfig" => some "AppProtection.RestoreConfig"
  | "AppProtection.SnapshotConfig", "CrashConsistent" =>
    some "AppProtection.SnapshotConfig.CrashConsistent"
  | _, _ => none

/-- The names of the namespace that this module defines. -/
def names : List String := ["AppProtection"]

end Blueprints.Library.Protection
