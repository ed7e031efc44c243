import Blueprints.Library.Builtin

namespace Blueprints.Library.Variables

/-- The pattern that integer values match. -/
def intPattern : String := "^[\\d]*$"

def datePattern : String := "^((0[1-9]|[12]\\d|3[01])/(0[1-9]|1[0-2])/[12]\\d\x7b3\x7d)$"

def timePattern : String := "^[\\d]\x7b2\x7d:[\\d]\x7b2\x7d(:[0-5]\\d)?$"

/-- The pattern that dates with times match. -/
def dateTimePattern : String :=
  "^((0[1-9]|[12]\\d|3[01])/(0[1-9]|1[0-2])/[12]\\d\x7b3\x7d)((T)|(\\s-\\s))[\\d]\x7b2\x7d:" ++
    "[\\d]\x7b2\x7d(:[0-5]\\d)?$"

def inputTypes : List String :=
  ["text", "password", "checkbox", "select", "selectmultiple", "date", "time", "datetime"]

/-- A list of texts written the way messages show a list. -/
def textListRepr (xs : List String) : String := (Value.list (xs.map .str)).repr

/-- Makes a variable class deriving from the root variable: the given attributes, then the name,
    the value unless it is absent, and the type. -/
def setvar (name value type_ : Value) (kwargs : List (String × Value)) : Build Value := do
  let mut kw := upsert kwargs "name" name
  if !value.isNone then kw := upsert kw "value" value
  kw := upsert kw "type" type_
  let base <- root .variable
  pure (.entity (<- makeClass .variable name [base] kw))

/-- The regular-expression check of a plain variable's value. -/
def checkValuePattern (validate regex value : Value) (pattern : Value) : Build Unit := do
  if validate.truthy && regex.truthy && value.truthy then
    if !(<- patternMatches pattern value) then
      throw (.badValue ("Value '" ++ value.toText ++ "' doesn't match with specified regex '" ++
        pattern.toText ++ "'"))

/-- A variable with a plain value, of type `LOCAL` or `SECRET`. -/
def simple (type_ : String) (b : Bound) : Build Value := do
  let name := b.get "name"
  let value := b.get "value"
  let mut kw : List (String × Value) :=
    [("is_hidden", b.get "is_hidden"), ("is_mandatory", b.get "is_mandatory")]
  if (b.get "runtime").truthy then kw := kw ++ [("editables", textDict [("value", .bool true)])]
  if !(b.get "label").isNone then kw := kw ++ [("label", b.get "label")]
  let regex := b.get "regex"
  if !regex.isNone then
    match regex with
    | .str _ => pure ()
    | _ => throw (.wrongType ("Expected string in field regex for variable " ++
        (<- nameText name) ++ ", got " ++ regex.typeText))
    checkValuePattern (b.get "validate_regex") regex value regex
    kw := kw ++ [("regex", textDict [("value", regex), ("should_validate", b.get "validate_regex")])]
  if !(b.get "description").isNone then kw := kw ++ [("description", b.get "description")]
  setvar name value (.str type_) kw

/-- What the typed and option-bearing constructors share. -/
structure Advanced where
  type_ : String
  valueType : String
  dataType : String
  valueParam : Option String := some "value"
  fromTask : Bool := false
  alwaysRuntime : Bool := false

/-- The choices of a variable's options, in order: each must be a text, and one that the pattern
    matches when values are validated. -/
def predefinedChoices (name pattern : Value) (validated : Bool) : List Value -> Build (List Value)
  | [] => pure []
  | choice :: rest => do
    match choice with
    | .str _ => pure ()
    | v => throw (.wrongType ("Expected list of string choices for options for variable " ++
        (<- nameText name) ++ ", got " ++ v.typeText))
    if validated then
      if !(<- patternMatches pattern choice) then
        throw (.badValue ("Option '" ++ choice.toText ++ "' doesn't match with specified regex '" ++
          pattern.toText ++ "'"))
    pure (choice :: (<- predefinedChoices name pattern validated rest))

/-- Checks that each default of a list is a text and one of the choices. -/
def checkListDefaults (name : Value) (choices : List Value) : List Value -> Build Unit
  | [] => pure ()
  | v :: rest => do
    match v with
    | .str _ => pure ()
    | _ => throw (.wrongType ("Expected list of string defaults for variable " ++
        (<- nameText name) ++ ", got " ++ v.typeText))
    if !choices.any (·.equal v) then
      throw (.wrongType ("Default value for variable array with options " ++
        (<- nameText name) ++ ", contains " ++ v.toText ++ ", which is not one of the options"))
    checkListDefaults name choices rest

/-- The value of a list variable with the given defaults: their texts joined by commas. -/
def joinDefaults (vals : List Value) : Value := .str (",".intercalate (vals.map Value.toText))

/-- The value of a variable with options before it is checked against the choices: the defaults
    of a `LIST` variable given as a list, checked item by item and joined, or the value as given. -/
def predefinedValue (name : Value) (dataType : String) (choices : List Value) :
    Value -> Build Value
  | .list vals =>
    if dataType == "LIST" then do
      checkListDefaults name choices vals
      pure (joinDefaults vals)
    else pure (.list vals)
  | v => pure v

/-- The choices of a variable's options and its value checked against them: a missing value is
    the first choice, and the value of a variable other than a `LIST` one must be a choice. -/
def predefinedOptions (name pattern : Value) (validated : Bool) (dataType : String)
    (items : List Value) (value : Value) : Build (List Value × Value) := do
  let choices <- predefinedChoices name pattern validated items
  let value <- predefinedValue name dataType choices value
  let value := if value.isNone && !choices.isEmpty then choices.head! else value
  if dataType != "LIST" && !choices.any (·.equal value) then
    throw (.wrongType ("Default value for variable with options " ++ (<- nameText name) ++
      ", is " ++ value.toText ++ ", which is not one of the options"))
  pure (choices, value)

/-- A variable with a value type and, possibly, options. -/
def advanced (r : Runtime) (a : Advanced) (b : Bound) : Build Value := do
  let name := b.get "name"
  let mut value : Value := match a.valueParam with
    | some p => b.get p
    | none => if a.fromTask then .str "" else .none
  let mut typeName : Value := .str a.type_
  let mut kw : List (String × Value) := []
  let runtime := a.alwaysRuntime || (b.get "runtime").truthy
  if runtime then kw := kw ++ [("editables", textDict [("value", .bool true)])]
  if !(b.get "label").isNone then kw := kw ++ [("label", b.get "label")]
  let mut fromTaskOptions := false
  if a.fromTask then
    let task := b.get "task"
    if !task.isNone then
      let isTask := match task with
        | .entity e => e.kind == .task
        | _ => false
      if !isTask then
        match task with
        | .entity _ => throw (.wrongType ("Expected a Task for variable " ++ (<- nameText name) ++
            ", got " ++ task.typeText))
        | v => throw (v.noAttribute "__kind__")
      let te := match task with
        | .entity e => e
        | _ => default
      let compiled <- r.compile [] te
      let taskAttrs := Doc.field compiled "attrs"
      if !taskAttrs.truthy then
        throw (.badValue ("Task for variable " ++ (<- nameText name) ++ ", is not valid."))
      let taskType := (te.lookup? "type").getD .none
      if !(taskType.isText "HTTP" || taskType.isText "EXEC") then
        throw (.badValue ("Task type for variable " ++ (<- nameText name) ++
          ", is not valid, Expected one of ['HTTP', 'EXEC'], got " ++ taskType.toText))
      let attrsWithType := match taskAttrs with
        | .dict entries => Value.dict (entries.filter (fun (k, _) => !k.isText "type") ++
            [(.str "type", taskType)])
        | v => v
      typeName := .str (taskType.toText ++ "_" ++ a.type_)
      kw := kw ++ [("options", textDict [("type", taskType), ("attrs", attrsWithType)])]
      fromTaskOptions := true
  kw := kw ++ [("value_type", .str a.valueType), ("data_type", .str a.dataType)]
  let regex0 := b.get "regex"
  let validate := b.get "validate_regex"
  let mut regex : Value := .none
  if !regex0.isNone then
    match regex0 with
    | .str _ => pure ()
    | _ => throw (.wrongType ("Expected string in field regex for variable " ++
        (<- nameText name) ++ ", got " ++ regex0.typeText))
    regex := textDict [("value", regex0), ("should_validate", validate)]
    kw := kw ++ [("regex", regex)]
  let options := if a.fromTask || a.valueParam == some "value" then Value.none else b.get "options"
  if !options.isNone then
    if fromTaskOptions then
      throw (.badValue ("Variable options for variable " ++ (<- nameText name) ++
        "cannot be specified since it is being fetched from a " ++ typeName.toText ++ " task"))
    let items <- match options with
      | .list items => pure items
      | v => throw (.wrongType ("Expected list of options for variable " ++ (<- nameText name) ++
          ", got " ++ v.typeText))
    let (choices, checked) <- predefinedOptions name regex0 (validate.truthy && regex.truthy)
      a.dataType items value
    value := checked
    kw := kw ++ [("options", textDict [("type", .str "PREDEFINED"), ("choices", .list choices)])]
  else
    checkValuePattern validate regex value (if regex.truthy then regex0 else .none)
  if !(b.get "is_hidden").isNone then kw := kw ++ [("is_hidden", .bool (b.get "is_hidden").truthy)]
  if !(b.get "is_mandatory").isNone then
    kw := kw ++ [("is_mandatory", .bool (b.get "is_mandatory").truthy)]
  if !(b.get "description").isNone then kw := kw ++ [("description", b.get "description")]
  setvar name value typeName kw

/-- The parameters of the plain constructors after the value. -/
def plainTail (regex : Value) : List (String × Option Value) :=
  [opt "name" .none, opt "label" .none, opt "regex" regex, opt "validate_regex" (.bool false),
   opt "is_hidden" (.bool false), opt "is_mandatory" (.bool false), opt "runtime" (.bool false),
   opt "description" (.str "")]

/-- The parameters of the constructors whose options come from a task. -/
def taskTail (regex : Value) : List (String × Option Value) :=
  [opt "name" .none, opt "label" .none, opt "regex" regex, opt "validate_regex" (.bool false),
   opt "is_hidden" (.bool false), opt "is_mandatory" (.bool false), opt "description" (.str "")]

/-- The default pattern of a value type suffix. -/
def patternOf : String -> Value
  | "int" => .str intPattern
  | "date" => .str datePattern
  | "time" => .str timePattern
  | "datetime" => .str dateTimePattern
  | _ => .none

/-- The value type of a constructor suffix. -/
def valueTypeOf : String -> String
  | "int" => "INT"
  | "date" => "DATE"
  | "time" => "TIME"
  | "datetime" => "DATE_TIME"
  | "multiline" => "MULTILINE_STRING"
  | _ => "STRING"

/-- The type suffixes of the typed constructors. -/
def suffixes : List String := ["string", "int", "date", "time", "datetime", "multiline"]

/-- A plain typed constructor, such as `simple_variable_int` or `simple_variable_date_secret`. -/
def typedSimple (r : Runtime) (suffix : String) (secret : Bool) : Builtin :=
  let base := if suffix == "string" then "simple_variable" else "simple_variable_" ++ suffix
  let qual := if secret then base ++ "_secret" else base
  let kind := if secret then "SECRET" else "LOCAL"
  let cfg : Advanced := { type_ := kind, valueType := valueTypeOf suffix, dataType := "BASE" }
  { sig := { qualName := qual, params := req "value" :: plainTail (patternOf suffix) },
    run := fun b => if suffix == "string" then simple kind b else advanced r cfg b }

/-- A constructor with predefined options, as a single value or an array. -/
def predefined (r : Runtime) (suffix : String) (array : Bool) : Builtin :=
  let qual := "variable_" ++ suffix ++ "_with_predefined_options" ++ (if array then "_array" else "")
  let dflt := if array then "defaults" else "default"
  let cfg : Advanced :=
    { type_ := "LOCAL", valueType := valueTypeOf suffix,
      dataType := if array then "LIST" else "BASE", valueParam := some dflt }
  let params := req "options" :: opt dflt .none ::
    ((plainTail (patternOf suffix)).filter (·.1 != "value"))
  { sig := { qualName := qual, params := params }, run := fun b => advanced r cfg b }

/-- A constructor whose options come from a task, as a single value or an array. -/
def fromTask (r : Runtime) (suffix : String) (array : Bool) : Builtin :=
  let qual := "variable_" ++ suffix ++ "_with_options_from_task" ++ (if array then "_array" else "")
  let cfg : Advanced :=
    { type_ := "LOCAL", valueType := valueTypeOf suffix,
      dataType := if array then "LIST" else "BASE", valueParam := none, fromTask := true,
      alwaysRuntime := true }
  { sig := { qualName := qual, params := req "task" :: taskTail (patternOf suffix) },
    run := fun b => advanced r cfg b }

/-- A class constructor that stands for a function with the same parameters. -/
def asConstructor (qualName : String) (f : Builtin) (params : List (String × Option Value)) :
    Builtin :=
  { sig := { qualName := qualName ++ ".__new__", params, implicit := 1 }, run := f.run }

/-- A task input of a runbook's input task. -/
def taskInput (b : Bound) : Build Value := do
  let mut kw := b.extra
  let mut name := (dictGet? (kw.map fun (k, v) => (Value.str k, v)) "name").getD .none
  let inputType := (kw.find? (·.1 == "input_type")).map (·.2) |>.getD .none
  let options := (kw.find? (·.1 == "options")).map (·.2) |>.getD (.list [])
  if !name.truthy then
    match b.rest.head? with
    | some (.str s) =>
      kw := upsert kw "name" (.str s)
      name := .str s
    | _ => throw (.badValue "Input name is required property")
  if inputType.isNone then kw := upsert kw "input_type" (.str "text")
  else if !inputTypes.any (inputType.isText ·) then
    throw (.badValue ("Input type is not valid. Supported input types are " ++
      textListRepr inputTypes ++ "."))
  if inputType.isText "select" || inputType.isText "selectmultiple" then
    let n := match options with
      | .list xs => xs.length
      | .dict es => es.length
      | .str s => s.length
      | .tuple xs => xs.length
      | _ => 1
    if n == 0 then
      throw (.badValue ("There must be atleast one option for input of type " ++
        inputType.toText ++ "."))
  pure (.entity (<- makeClass .taskInput name [] kw))

/-- The variable constructors, by the name that a path resolves to. -/
def builtin? (r : Runtime) (name : String) : Option Builtin :=
  let simpleParams := req "value" :: plainTail .none
  match name with
  | "setvar" =>
    let sig : Signature :=
      { qualName := "setvar", params := [req "name", req "value", opt "type_" (.str "LOCAL")],
        varKw := true }
    some { sig, run := fun b => setvar (b.get "name") (b.get "value") (b.get "type_") b.extra }
  | "CalmVariable" => some (asConstructor "CalmVariable" (typedSimple r "string" false) simpleParams)
  | "CalmVariable.Simple" =>
    some (asConstructor "CalmVariable.Simple" (typedSimple r "string" false) simpleParams)
  | "CalmVariable.Simple.Secret" =>
    some (asConstructor "CalmVariable.Simple.Secret" (typedSimple r "string" true) simpleParams)
  | "CalmVariable.WithOptions" =>
    let f := predefined r "string" false
    some (asConstructor "CalmVariable.WithOptions" f f.sig.params)
  | "CalmVariable.WithOptions.Predefined" =>
    let f := predefined r "string" false
    some (asConstructor "CalmVariable.WithOptions.Predefined" f f.sig.params)
  | "CalmVariable.WithOptions.Predefined.Array" =>
    let f := predefined r "string" true
    some (asConstructor "CalmVariable.WithOptions.Predefined.Array" f f.sig.params)
  | "CalmVariable.WithOptions.FromTask" =>
    let f := fromTask r "string" false
    some (asConstructor "CalmVariable.WithOptions.FromTask" f f.sig.params)
  | "CalmVariable.WithOptions.FromTask.Array" =>
    let f := fromTask r "string" true
    some (asConstructor "CalmVariable.WithOptions.FromTask.Array" f f.sig.params)
  | "RunbookVariable.TaskInput" =>
    let sig : Signature :=
      { qualName := "RunbookVariable.TaskInput.__new__", params := [], implicit := 1,
        varArgs := true, varKw := true }
    some { sig, run := taskInput }
  | _ =>
    suffixes.findSome? fun suffix =>
      let base := if suffix == "string" then "simple_variable" else "simple_variable_" ++ suffix
      if name == base then some (typedSimple r suffix false)
      else if name == base ++ "_secret" then some (typedSimple r suffix true)
      else if name == "variable_" ++ suffix ++ "_with_predefined_options" then
        some (predefined r suffix false)
      else if name == "variable_" ++ suffix ++ "_with_predefined_options_array" then
        some (predefined r suffix true)
      else if name == "variable_" ++ suffix ++ "_with_options_from_task" then
        some (fromTask r suffix false)
      else if name == "variable_" ++ suffix ++ "_with_options_from_task_array" then
        some (fromTask r suffix true)
      else none

/-- The members of the variable classes: nested classes and the functions they name. -/
def member? (owner attr : String) : Option String :=
  let typed (pre : String -> String) : Option String :=
    if suffixes.contains attr then some (pre attr) else none
  match owner, attr with
  | "CalmVariable", "Simple" => some "CalmVariable.Simple"
  | "CalmVariable", "WithOptions" => some "CalmVariable.WithOptions"
  | "RunbookVariable", "TaskInput" => some "RunbookVariable.TaskInput"
  | "RunbookVariable", "Simple" => some "CalmVariable.Simple"
  | "RunbookVariable", "WithOptions" => some "CalmVariable.WithOptions"
  | "CalmVariable.Simple", "Secret" => some "CalmVariable.Simple.Secret"
  | "CalmVariable.Simple", _ =>
    typed fun s => if s == "string" then "simple_variable" else "simple_variable_" ++ s
  | "CalmVariable.Simple.Secret", _ =>
    typed fun s => (if s == "string" then "simple_variable" else "simple_variable_" ++ s) ++ "_secret"
  | "CalmVariable.WithOptions", "Predefined" => some "CalmVariable.WithOptions.Predefined"
  | "CalmVariable.WithOptions", "FromTask" => some "CalmVariable.WithOptions.FromTask"
  | "CalmVariable.WithOptions.Predefined", "Array" => some "CalmVariable.WithOptions.Predefined.Array"
  | "CalmVariable.WithOptions.Predefined", _ =>
    typed fun s => "variable_" ++ s ++ "_with_predefined_options"
  | "CalmVariable.WithOptions.Predefined.Array", _ =>
    typed fun s => "variable_" ++ s ++ "_with_predefined_options_array"
  | "CalmVariable.WithOptions.FromTask", "Array" => some "CalmVariable.WithOptions.FromTask.Array"
  | "CalmVariable.WithOptions.FromTask", _ =>
    typed fun s => "variable_" ++ s ++ "_with_options_from_task"
  | "CalmVariable.WithOptions.FromTask.Array", _ =>
    typed fun s => "variable_" ++ s ++ "_with_options_from_task_array"
  | _, _ => none

end Blueprints.Library.Variables
