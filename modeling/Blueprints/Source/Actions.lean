import Blueprints.Source.Tasks
import Blueprints.Decompile.Class

namespace Blueprints.Source

open Library Text Templates

/-- The template of a variable of a value type, among the templates for the types `STRING`,
    `INT`, `TIME`, `DATE`, `DATE_TIME` and `MULTILINE_STRING`, in that order. -/
def byValueType (valueType : String) (ts : String × String × String × String × String × String) :
    Option String :=
  let (text, int, time, date, dateTime, multiline) := ts
  match valueType with
  | "STRING" => some text
  | "INT" => some int
  | "TIME" => some time
  | "DATE" => some date
  | "DATE_TIME" => some dateTime
  | "MULTILINE_STRING" => some multiline
  | _ => none

/-- The defaults of a list variable, read back from its value: the texts apart by commas. -/
def splitDefaults (s : String) : List String := (s.split ',').toList.map (·.copy)

/-- A variable written as source; `context` is the place of its parent. -/
def variableText (r : Runtime) (var : Entity) (context : String) : Writer String := do
  let context := context ++ "_variable_" ++ var.name
  let mut obj := assoc (userAttrs var) "description" (.str (escapeBreaks (var.doc.getD "")))
  let valueType := (var.lookup? "value_type").getD (.str "STRING")
  let valueType := valueType.toText
  let options := attrOf var "options"
  let mut simple := false
  if !options.truthy then simple := true
  else
    let opts <- dictOf r options
    let choices <- getOr opts "choices" (.list [])
    let optionType <- getOr opts "type" (.str "")
    if !choices.truthy && optionType.isText "PREDEFINED" then simple := true
  let regex := attrOf var "regex"
  if regex.truthy then
    let d <- dictOf r regex
    obj := assoc obj "regex" (<- getOr d "value" .none)
    obj := assoc obj "validate_regex" (<- getOr d "should_validate" (.bool false))
  else
    obj := assoc (assoc obj "regex" .none) "validate_regex" (.bool false)
  let editables := attrOf var "editables"
  obj := assoc obj "runtime" (<- if editables.truthy then item editables "value"
    else pure (.bool false))
  obj := assoc obj "name" (.str var.name)
  let value := (lookup obj "value").getD .none
  let template <- if simple then do
      let some varType := lookup obj "type" | throw (.missingKey "'type'")
      if varType.isText "SECRET" then
        modify fun rec => { rec with secretFiles := rec.secretFiles ++ [context] }
        writeFile (".local/" ++ context) ""
        obj := assoc obj "value" (.str context)
        pure (byValueType valueType (varSimpleSecretString,
          varSimpleSecretInt, varSimpleSecretTime,
          varSimpleSecretDate, varSimpleSecretDatetime,
          varSimpleSecretMultiline))
      else
        if valueType == "MULTILINE_STRING" then obj := assoc obj "value" (.str value.repr)
        pure (byValueType valueType (varSimpleString, varSimpleInt,
          varSimpleTime, varSimpleDate, varSimpleDatetime,
          varSimpleMultiline))
    else do
      let base := (attrOf var "data_type").isText "BASE"
      let opts <- dictOf r options
      let optionType <- getOr opts "type" (.str "PREDEFINED")
      if optionType.isText "PREDEFINED" then
        obj := assoc obj "choices" (<- getOr opts "choices" (.list []))
        if base then
          if valueType == "MULTILINE_STRING" then obj := assoc obj "value" (.str value.repr)
          pure (byValueType valueType (varWithOptionsPredefinedString,
            varWithOptionsPredefinedInt, varWithOptionsPredefinedTime,
            varWithOptionsPredefinedDate, varWithOptionsPredefinedDatetime,
            varWithOptionsPredefinedMultiline))
        else
          let defaults <- match attrOf var "value" with
            | .str s => pure s
            | v => throw (.missingAttribute ("'" ++ v.typeName ++
                "' object has no attribute 'split'"))
          let parts := Value.list ((splitDefaults defaults).map Value.str)
          obj := assoc obj "value" (if valueType == "MULTILINE_STRING" then .str parts.repr
            else parts)
          pure (byValueType valueType (varWithOptionsPredefinedArrayString,
            varWithOptionsPredefinedArrayInt,
            varWithOptionsPredefinedArrayTime,
            varWithOptionsPredefinedArrayDate,
            varWithOptionsPredefinedArrayDatetime,
            varWithOptionsPredefinedArrayMultiline))
      else
        let taskDict := Value.dict (dictDrop (<- entries opts) "choices")
        let task <- Decompile.decompile r .task taskDict
        let task := task.withName "SampleTask"
        obj := assoc obj "value" (.str (<- taskText task context [] []))
        if base then
          pure (byValueType valueType (varWithOptionsFromTaskString,
            varWithOptionsFromTaskInt, varWithOptionsFromTaskTime,
            varWithOptionsFromTaskDate, varWithOptionsFromTaskDatetime,
            varWithOptionsFromTaskMultiline))
        else
          pure (byValueType valueType (varWithOptionsFromTaskArrayString,
            varWithOptionsFromTaskArrayInt, varWithOptionsFromTaskArrayTime,
            varWithOptionsFromTaskArrayDate,
            varWithOptionsFromTaskArrayDatetime,
            varWithOptionsFromTaskArrayMultiline))
  let some template := template | throw (.failure "Unknown variable type")
  fill template obj

/-- The name of a task as the edges of a DAG refer to it. -/
def taskKey (t : Entity) : String := (attrOf t "name").toText

/-- Takes the edges into the tasks `ts` away, one edge each, in order: the count of edges into
    each drops by one, and the tasks whose count reaches zero join `ready`. -/
def dropEdges (indegree : List (String × Nat)) (ready : List String) :
    List String -> List (String × Nat) × List String
  | [] => (indegree, ready)
  | t :: ts =>
    let n := ((lookup indegree t).getD 0) - 1
    dropEdges (assoc indegree t n) (if n == 0 then ready ++ [t] else ready) ts

/-- Takes away the edges out of each task of a level, in order: the tasks whose count of edges
    into them reaches zero form the next level. -/
def releaseLevel (next : List (String × List String)) (indegree : List (String × Nat))
    (ready : List String) : List String -> List (String × Nat) × List String
  | [] => (indegree, ready)
  | cur :: level =>
    let (indegree, ready) := dropEdges indegree ready ((lookup next cur).getD [])
    releaseLevel next indegree ready level

/-- The levels of tasks from the level `queue` on, for at most `fuel` levels: each level is
    taken out of the graph, and the tasks left without edges into them form the next. -/
def kahnLevels {α : Type} (byName : List (String × α)) (next : List (String × List String)) :
    Nat -> List (String × Nat) -> List String -> List (List α)
  | 0, _, _ => []
  | fuel + 1, indegree, queue =>
    if queue.isEmpty then [] else
      let level := queue.filterMap (lookup byName)
      let (indegree, following) := releaseLevel next indegree [] queue
      (if level.isEmpty then [] else [level]) ++ kahnLevels byName next fuel indegree following

def refName (v : Value) : Writer String :=
  match v with
  | .entity e => pure (attrOf e "name").toText
  | v => throw (v.noAttribute "name")

/-- Counts the edges of a DAG, in order, into the count of edges into each task and the list of
    the tasks each task leads to; an edge naming a task that the tables lack is an error. -/
def countEdges : List (String × Nat) -> List (String × List String) -> List Value ->
    Writer (List (String × Nat) × List (String × List String))
  | indegree, next, [] => pure (indegree, next)
  | indegree, next, edge :: edges => do
    let source <- refName (<- item edge "from_task_reference")
    let target <- refName (<- item edge "to_task_reference")
    let some n := lookup indegree target | throw (.missingKey (quoted target))
    let some out := lookup next source | throw (.missingKey (quoted source))
    countEdges (assoc indegree target (n + 1)) (assoc next source (out ++ [target])) edges

/-- The levels of the tasks that the DAG task among `tasks` runs: the tasks that no edge leads
    into, then those whose every incoming edge comes from an earlier level, and so on. -/
def taskLevels (tasks : List Entity) : Writer (List (List Entity)) := do
  let some dag := tasks.find? fun t => (attrOf t "type").isText "DAG"
    | throw (.badValue "Dag task not found")
  let index := tasks.findIdx fun t => (attrOf t "type").isText "DAG"
  let rest := tasks.eraseIdx index
  let edges <- iterate (<- item (attrOf dag "attrs") "edges")
  let byName := rest.foldl (fun acc t => assoc acc (taskKey t) t) []
  let (indegree, next) <- countEdges (rest.foldl (fun acc t => assoc acc (taskKey t) 0) [])
    (rest.foldl (fun acc t => assoc acc (taskKey t) []) []) edges
  -- every task enters the queue at most once per edge into it and once at the start
  pure (kahnLevels byName next (rest.length + edges.length + 1) indegree
    ((indegree.filter (·.2 == 0)).map (·.1)))

/-- An action written as source under the name `name`, or nothing when it has neither
    variables nor tasks; `context` is the place of its parent and `configs` the configurations
    its tasks may run. -/
def actionText (r : Runtime) (action : Entity) (name : String) (displayed : String)
    (context : String) (configs : List (String × String × String)) : Writer String := do
  let context := context ++ "_Action_" ++ name
  let runbook <- match attrOf action "runbook" with
    | .entity rb => pure rb
    | v => throw (v.noAttribute "tasks")
  nameRunbook (displayName runbook) name
  let tasks <- iterate (attrOf runbook "tasks")
  let tasks <- tasks.mapM fun t => match t with
    | .entity e => pure e
    | v => throw (v.noAttribute "type")
  let mut taskTexts : List Value := []
  for level in <- taskLevels tasks do
    let runbooks := (<- get).runbookActions
    let text <- match level with
      | [t] => taskText t context runbooks configs
      | ts => parallelText ts context runbooks configs
    taskTexts := taskTexts ++ [.str text]
  let mut varTexts : List Value := []
  for v in <- iterate (attrOf runbook "variables") do
    match v with
    | .entity e => varTexts := varTexts ++ [.str (<- variableText r e context)]
    | v => throw (v.noAttribute "name")
  if varTexts.isEmpty && taskTexts.isEmpty then return ""
  let mut obj : List (String × Value) := [("name", .str name),
    ("description", .str (action.doc.getD "")), ("tasks", .list taskTexts),
    ("variables", .list varTexts)]
  if displayed != name then obj := obj ++ [("gui_display_name", .str displayed)]
  fill Templates.action obj

end Blueprints.Source
