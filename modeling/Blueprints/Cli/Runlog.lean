import Blueprints.Cli.Listings
import Blueprints.Api.Handle
import Blueprints.Text.Fixed
import Blueprints.Template.Render

namespace Blueprints.Cli

open Library Http Api Build Text Api

def failedRunStates : List String :=
  ["FAILURE", "APPROVAL_FAILED", "WARNING", "ERROR", "ABORTED", "SYS_FAILURE", "SYS_ERROR",
   "SYS_ABORTED"]

/-- Writes a line on the screen of a watch. -/
def screenLine (text : String) : Build Unit := print (text ++ "\n")

/-- The text before a row of a tree drawn with branches, and the text that continues below it,
    from whether each level above the row, its own included, has rows after it. -/
def branchRow (continues : List Bool) : String × String :=
  match continues.getLast? with
  | none => ("", "")
  | some more =>
    let items := continues.map fun c => if c then "│   " else "    "
    let indent := String.join items.dropLast
    (indent ++ (if more then "├── " else "└── "), String.join items)

/-- The rows of a tree drawn with branches, in the order of a walk from a node: each row has
    the text before its node, the text that continues below it, and the node. The fuel bounds
    the depth. -/
def treeRows (children : Nat -> List Nat) : Nat -> List Bool -> Nat -> List (String × String × Nat)
  | 0, _, _ => []
  | fuel + 1, continues, node =>
    let (pre, fill) := branchRow continues
    let cs := children node
    (pre, fill, node) :: (cs.zipIdx.flatMap fun (c, i) =>
      treeRows children fuel (continues ++ [decide (i + 1 < cs.length)]) c)

/-- A node of a tree of run logs. -/
structure RunlogNode where
  runlog : Value
  machine : Option String := none
  outputs : List Value := []
  reasons : List Value := []
  parent : Option Nat := none
  stamp : Nat := 0
deriving Inhabited

/-- A tree of run logs; node `0` is the root. -/
structure RunlogTree where
  nodes : Array RunlogNode
  index : List (String × Nat)

/-- The children of a node, in the order they were hung under it. -/
def RunlogTree.children (t : RunlogTree) (i : Nat) : List Nat :=
  let hung := (List.range t.nodes.size).filter fun j => (t.nodes[j]?.bind (·.parent)) == some i
  hung.mergeSort fun a b => decide ((t.nodes[a]?.map (·.stamp)).getD 0 ≤
    (t.nodes[b]?.map (·.stamp)).getD 0)

/-- Whether node `a` is node `b` or one of its ancestors. The fuel bounds the walk up. -/
def RunlogTree.isAncestor (t : RunlogTree) (a : Nat) : Nat -> Nat -> Bool
  | 0, _ => false
  | fuel + 1, b =>
    a == b || match t.nodes[b]?.bind (·.parent) with
      | some p => t.isAncestor a fuel p
      | none => false

/-- A task of a run that waits for the user: its name, its run log and the inputs it asks for. -/
structure WaitingTask where
  name : Value
  uuid : Value
  inputs : Value := .list []

/-- What drawing a tree of run logs found waiting: tasks waiting for inputs, and tasks waiting
    for a confirmation. -/
structure Waiting where
  inputs : List WaitingTask := []
  confirms : List WaitingTask := []

/-- `text[:-1]`: a text without its last character. -/
def dropLastOf (v : Value) : Build Value :=
  match v with
  | .str s => pure (.str (String.ofList s.toList.dropLast))
  | .list xs => pure (.list xs.dropLast)
  | .tuple xs => pure (.tuple xs.dropLast)
  | v => throw v.notSubscriptable

/-- Draws one node of a tree of run logs: its line and the lines below it. Answers what the
    node waits for. -/
def drawRunlog (node : RunlogNode) (hasChildren : Bool) (pre fill : String) : Build Waiting := do
  let metadata <- at! node.runlog "metadata"
  let status <- at! node.runlog "status"
  let state <- at! status "state"
  let kind <- at! status "type"
  let mut output := ""
  let mut reasons := ""
  let mut name : Value := .none
  if kind.isText "task_runlog" then
    name <- path! status ["task_reference", "name"]
    for out in node.outputs do output := output ++ "'" ++ (<- dropLastOf out).toText ++ "'\n"
    for reason in node.reasons do reasons := reasons ++ "'" ++ reason.toText ++ "'\n"
  else if kind.isText "runbook_runlog" then
    if <- compareValues .mem (.str "call_runbook_reference") status then
      name <- path! status ["call_runbook_reference", "name"]
    else name <- path! status ["runbook_reference", "name"]
  else if kind.isText "action_runlog" && (<- compareValues .mem (.str "action_reference") status) then
    name <- path! status ["action_reference", "name"]
  else if kind.isText "app" then
    screenLine (pre ++ (<- at! status "name").toText)
    return {}
  else
    screenLine (pre ++ "root")
    return {}
  let mut title := name.toText
  if let some m := node.machine then title := title ++ " ['" ++ m ++ "']"
  let created <- secondsOf (<- at! metadata "creation_time")
  let user <- if <- compareValues .mem (.str "userdata_reference") status then
      path! status ["userdata_reference", "name"]
    else pure .none
  let updated <- secondsOf (<- at! metadata "last_update_time")
  let timing := if isOneOf state finishedRunStates then
      let span := spanText (updated - created)
      "[Time Taken: " ++ String.ofList (List.replicate (8 - span.length) '0') ++ span ++ "]"
    else "[Started: " ++ ctime created ++ "]"
  screenLine (pre ++ title ++ " (Status: " ++ state.toText ++ ") " ++ timing)
  let fill := if hasChildren then fill ++ "│" else fill
  if kind.isText "action_runlog" then
    screenLine (fill ++ "\t Runlog UUID: " ++ (<- at! metadata "uuid").toText)
  if user.truthy then screenLine (fill ++ "\t Run by: " ++ user.toText)
  if !output.isEmpty then
    screenLine (fill ++ "\t Output :")
    for line in Template.splitLines output do
      screenLine (fill ++ "\t  " ++ line)
      screenLine fill
  if !reasons.isEmpty then
    screenLine (fill ++ "\t Reasons :")
    for line in Template.splitLines reasons do
      screenLine (fill ++ "\t  " ++ line)
      screenLine fill
  if kind.isText "task_runlog" && state.isText "INPUT" then
    let attrs <- getOr status "attrs" .none
    match attrs with
    | .dict _ =>
      let uuid <- at! metadata "uuid"
      return { inputs := [{ name := .str title, uuid, inputs := <- getOr attrs "inputs" (.list []) }] }
    | _ => return {}
  if kind.isText "task_runlog" && state.isText "CONFIRM" then
    return { confirms := [{ name := .str title, uuid := <- at! metadata "uuid" }] }
  pure {}

/-- Draws a tree of run logs under the share of top-level tasks that finished and the state of
    the first run log, with a message below. Answers what the tree waits for. -/
def drawRunlogTree (t : RunlogTree) (completed total : Nat) (msg : String := "") :
    Build Waiting := do
  if total != 0 then screenLine ("Progress: " ++ percentText completed total ++ "%")
  let some first := (t.children 0).head?
    | throw (.outOfRange "tuple index out of range")
  let firstState <- path! ((t.nodes[first]?.map (·.runlog)).getD .none) ["status", "state"]
  screenLine firstState.toText
  let mut waiting : Waiting := {}
  for (pre, fill, i) in treeRows t.children (t.nodes.size + 1) [] 0 do
    let node := t.nodes[i]?.getD default
    let found <- drawRunlog node (!(t.children i).isEmpty) pre fill
    waiting := { inputs := waiting.inputs ++ found.inputs,
                 confirms := waiting.confirms ++ found.confirms }
  if !msg.isEmpty then screenLine msg
  pure waiting

def uuidKey (v : Value) : String := v.toText

/-- The value of a key of a map built from values, or a missing key. -/
def valueAt (map : List (Value × Value)) (key : Value) : Build Value :=
  match map.find? (·.1.equal key) with
  | some (_, v) => pure v
  | none => throw (.missingKey key.repr)

/-- The machine of a run log's name: the name and the address when the run log ran on a
    machine of an endpoint, `none` when it names no machine, and a single part when it is the
    loop over the machines. -/
def machineParts (runlogUuid : Value) (machineName : Value) : Option (List String) :=
  if !machineName.truthy then none
  else some (machineName.toText.splitOn ("-" ++ runlogUuid.toText ++ " - "))

/-- The run logs sorted by the time they were created; equal times keep their order. -/
def sortedRunlogs (entities : Value) : Build (List Value) := do
  let mut keyed : List (Int × Value) := []
  for e in <- iterate entities do
    let key <- integerOf (<- path! e ["metadata", "creation_time"])
    keyed := keyed ++ [(key, e)]
  pure ((keyed.mergeSort fun a b => decide (a.1 ≤ b.1)).map (·.2))

/-- Looks at the run logs of a run of a runbook: draws their tree, and tells whether the run
    has ended and how. -/
def runbookRunComplete (runlogUuid : Value) (taskTypes : List (Value × Value))
    (topLevel : List Value) (response : Value) : Build (Bool × String) := do
  let entities <- at! response "entities"
  if (<- lengthOf entities) == 0 then return (false, "")
  let sorted <- sortedRunlogs entities
  let mut nodes : Array RunlogNode := #[]
  let mut index : List (String × Nat) := []
  let mut runlogs : List (String × Value) := []
  let setKey' (m : List (String × Nat)) (k : String) (i : Nat) :=
    (m.filter (·.1 != k)) ++ [(k, i)]
  let mut kept : List Value := []
  for runlog in sorted do
    if nodes.isEmpty then
      let rootUuid <- path! runlog ["status", "root_reference", "uuid"]
      let rootRunlog := dictOf [("metadata", dictOf [("uuid", rootUuid)]),
        ("status", dictOf [("type", .str "action_runlog"), ("state", .str "")])]
      runlogs := (runlogs.filter (·.1 != uuidKey rootUuid)) ++ [(uuidKey rootUuid, rootRunlog)]
      nodes := nodes.push { runlog := rootRunlog }
      index := setKey' index (uuidKey rootUuid) 0
    let uuid <- path! runlog ["metadata", "uuid"]
    let status <- at! runlog "status"
    runlogs := (runlogs.filter (·.1 != uuidKey uuid)) ++ [(uuidKey uuid, runlog)]
    let reasons <- getOr status "reason_list" (.list [])
    let machineName <- getOr status "machine_name" .none
    let machine <- match machineParts runlogUuid machineName with
      | some [_] =>
        let marked <- setKey runlog "status" (<- setKey status "machine_name" (.str "-"))
        runlogs := (runlogs.filter (·.1 != uuidKey uuid)) ++ [(uuidKey uuid, marked)]
        continue
      | some (address :: label :: _) => pure (some (label ++ " (" ++ address ++ ")"))
      | _ => pure none
    let mut outputs : List Value := []
    if (<- at! status "type").isText "task_runlog" then
      let taskId <- path! status ["task_reference", "uuid"]
      let taskType <- valueAt taskTypes taskId
      if taskType.isText "META" then continue
      if !isOneOf taskType ["INPUT", "CONFIRM", "WHILE_LOOP"] then
        let answer <- getAt (runlogsBase ++ "/" ++ runlogUuid.toText ++ "/children/" ++
          uuid.toText ++ "/output")
        if let some err := answer.error then
          throw (.failure ("\n[" ++ (<- at! err "code").toText ++ "] - " ++
            (<- at! err "error").toText))
        let outputList <- path! (<- answer.json) ["status", "output_list"]
        if (<- lengthOf outputList) > 0 then
          outputs := [<- at! (<- subscript outputList (.int 0)) "output"]
    let reasonList <- if reasons.truthy then iterate reasons else pure []
    index := setKey' index (uuidKey uuid) nodes.size
    nodes := nodes.push { runlog, machine, outputs, reasons := reasonList, parent := some 0,
                          stamp := nodes.size }
    kept := kept ++ [runlog]
  let mut tree : RunlogTree := { nodes, index }
  let mut stamp := nodes.size
  for runlog in sorted do
    let uuid <- path! runlog ["metadata", "uuid"]
    let some i := tree.index.lookup (uuidKey uuid) | continue
    let mut parentUuid <- path! runlog ["status", "parent_reference", "uuid"]
    let find (key : Value) : Build Value := do
      match runlogs.lookup (uuidKey key) with
      | some r => pure r
      | none => throw (.missingKey (quoted (uuidKey key)))
    let mut parentRunlog <- find parentUuid
    for _ in List.range (runlogs.length + 1) do
      let pStatus <- at! parentRunlog "status"
      let isMeta <- if (<- at! pStatus "type").isText "task_runlog" then
          pure ((<- valueAt taskTypes (<- path! pStatus ["task_reference", "uuid"])).isText "META")
        else pure false
      if !(isMeta || (<- getOr pStatus "machine_name" .none).isText "-") then break
      parentUuid <- path! pStatus ["parent_reference", "uuid"]
      parentRunlog <- find parentUuid
    let some p := tree.index.lookup (uuidKey parentUuid)
      | throw (.missingKey (quoted (uuidKey parentUuid)))
    let current := tree.nodes[i]?.bind (·.parent)
    if current != some p then
      if tree.isAncestor i (tree.nodes.size + 1) p then
        throw (.system "LoopError" "Cannot set parent: a node cannot hang under itself.")
      stamp := stamp + 1
      tree := { tree with nodes := tree.nodes.modify i fun n => { n with parent := some p, stamp } }
  let mut statusOf : List (Value × String) := []
  for runlog in sorted do
    let status <- at! runlog "status"
    if (<- at! status "type").isText "task_runlog" then
      let taskId <- path! status ["task_reference", "uuid"]
      let state <- at! status "state"
      let top := topLevel.any (·.equal taskId)
      let known := statusOf.find? (·.1.equal taskId)
      if isOneOf state finishedRunStates && top && (known.map (·.2)).getD "" == "" then
        statusOf := (statusOf.filter fun (k, _) => !k.equal taskId) ++ [(taskId, "COMPLETED")]
      else if !isOneOf state finishedRunStates && top then
        statusOf := (statusOf.filter fun (k, _) => !k.equal taskId) ++ [(taskId, "RUNNING")]
  let completed := (statusOf.filter (·.2 == "COMPLETED")).length
  let total := topLevel.length
  let waiting <- drawRunlogTree tree completed total
  if !waiting.inputs.isEmpty then
    for task in waiting.inputs do
      let singles <- iterate task.inputs
      for single in singles do
        let _ <- getOr single "input_type" (.str "text")
        let _ <- getOr single "name" (.str "")
      if !singles.isEmpty then
        throw (.missingAttribute "'Display' object has no attribute 'play'")
      let _ <- postAt (runlogsBase ++ "/" ++ runlogUuid.toText ++ "/children/" ++
        task.uuid.toText ++ "/resume") (dictOf [("properties", emptyDict)])
    let again <- drawRunlogTree tree completed total
      "Sending resume for input tasks with input values"
    if !(waiting.confirms ++ again.confirms).isEmpty then
      throw (.missingAttribute "'Display' object has no attribute 'play'")
  else if !waiting.confirms.isEmpty then
    throw (.missingAttribute "'Display' object has no attribute 'play'")
  for runlog in sorted do
    let state <- path! runlog ["status", "state"]
    if isOneOf state failedRunStates then return (true, "Action failed.")
    if !isOneOf state finishedRunStates then return (false, "")
  screenLine "Action ran successfully."
  pure (true, "Action ran successfully.")
where
  runlogsBase : String := (Api.Resource.named "RunbookAPI" "runbooks").base ++ "/runlogs"

end Blueprints.Cli
