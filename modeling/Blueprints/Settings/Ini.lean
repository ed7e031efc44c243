import Blueprints.Text.Quoted
import Blueprints.Text.Pattern

namespace Blueprints.Ini

open Text

/-- Why a settings file cannot be read. -/
inductive Error where
  | noSectionHeader (file : String) (line : Nat) (text : String)
  | duplicateSection (file : String) (line : Nat) (name : String)
  | duplicateOption (file : String) (line : Nat) (sectionName option : String)
  | unreadable (file : String) (lines : List (Nat × String))
  | badReference (message : String)
  | missingOption (option sectionName key raw : String)
  | tooDeep (option sectionName raw : String)
deriving Repr, Inhabited

def maxDepth : Nat := 10

def lineNumber (n : Nat) : String :=
  let s := toString n
  if s.length < 2 then " " ++ s else s

namespace Error

def kind : Error -> String
  | .noSectionHeader .. => "MissingSectionHeaderError"
  | .duplicateSection .. => "DuplicateSectionError"
  | .duplicateOption .. => "DuplicateOptionError"
  | .unreadable .. => "ParsingError"
  | .badReference .. => "InterpolationSyntaxError"
  | .missingOption .. => "InterpolationMissingOptionError"
  | .tooDeep .. => "InterpolationDepthError"

def message : Error -> String
  | .noSectionHeader file line text =>
    "File contains no section headers.\nfile: " ++ quoted file ++ ", line: " ++ toString line ++
      "\n" ++ quoted text
  | .duplicateSection file line name =>
    "While reading from " ++ quoted file ++ " [line " ++ lineNumber line ++ "]: section " ++
      quoted name ++ " already exists"
  | .duplicateOption file line sectionName option =>
    "While reading from " ++ quoted file ++ " [line " ++ lineNumber line ++ "]: option " ++
      quoted option ++ " in section " ++ quoted sectionName ++ " already exists"
  | .unreadable file lines =>
    "Source contains parsing errors: " ++ quoted file ++
      String.join (lines.map fun (n, l) => "\n\t[line " ++ lineNumber n ++ "]: " ++ quoted l)
  | .badReference message => message
  | .missingOption option sectionName key raw =>
    "Bad value substitution: option " ++ quoted option ++ " in section " ++ quoted sectionName ++
      " contains an interpolation key " ++ quoted key ++
      " which is not a valid option name. Raw value: " ++ quoted raw
  | .tooDeep option sectionName raw =>
    "Recursion limit exceeded in value substitution: option " ++ quoted option ++ " in section " ++
      quoted sectionName ++ " contains an interpolation key which cannot be substituted in " ++
      toString maxDepth ++ " steps. Raw value: " ++ quoted raw

end Error

/-- Options in the order they were first set. -/
abbrev Options := List (String × String)

/-- A settings file as read: the shared options and the sections, in order. -/
structure Document where
  defaults : Options := []
  sections : List (String × Options) := []
deriving Repr, Inhabited

/-- The name of the section whose options every section shares. -/
def defaultSection : String := "DEFAULT"

def trim (s : String) : String :=
  String.ofList ((s.toList.dropWhile isBlankChar).reverse.dropWhile isBlankChar).reverse

def trimEnd (s : String) : String :=
  String.ofList (s.toList.reverse.dropWhile isBlankChar).reverse

/-- The name of a section header `[NAME]`: what lies between the first character, a `[`, and
    the last `]`, which may be followed by more text. -/
def headerName? (s : String) : Option String :=
  match s.toList with
  | '[' :: rest =>
    let inner := (rest.reverse.dropWhile (· != ']')).reverse
    match inner.reverse with
    | ']' :: before => if before.isEmpty then none else some (String.ofList before.reverse)
    | _ => none
  | _ => none

/-- An option line split at its first `=` or `:`: the key without its trailing blanks and the
    value without its blanks. -/
def optionParts? (s : String) : Option (String × String) :=
  let cs := s.toList
  let key := cs.takeWhile fun c => c != '=' && c != ':'
  if key.length == cs.length then none
  else some (trimEnd (String.ofList key), trim (String.ofList (cs.drop (key.length + 1))))

/-- Where options go while a file is read. -/
inductive Target where
  | shared
  | named (name : String)
deriving BEq, Inhabited

/-- What reading has built so far: values are kept as their lines until the end. -/
structure Reading where
  defaults : List (String × List String) := []
  sections : List (String × List (String × List String)) := []
  target : Option Target := none
  option : Option String := none
  indent : Nat := 0
  unreadable : List (Nat × String) := []

namespace Reading

def optionsOf (r : Reading) : Target -> List (String × List String)
  | .shared => r.defaults
  | .named n => (r.sections.lookup n).getD []

/-- The reading with the options of the target replaced. -/
def withOptions (r : Reading) (t : Target) (opts : List (String × List String)) : Reading :=
  match t with
  | .shared => { r with defaults := opts }
  | .named n => { r with sections := r.sections.map fun (m, o) => if m == n then (m, opts) else (m, o) }

/-- The reading with a line added to the value of the current option, when there is one with a
    name. -/
def extend (r : Reading) (line : String) : Reading :=
  match r.target, r.option with
  | some t, some o =>
    if o.isEmpty then r
    else r.withOptions t ((r.optionsOf t).map fun (k, v) => if k == o then (k, v ++ [line]) else (k, v))
  | _, _ => r

end Reading

/-- The indentation of a line: the blanks before its first other character. -/
def indentOf (line : String) : Nat := (line.toList.takeWhile isBlankChar).length

def readLine (file : String) (r : Reading) (number : Nat) (line : String) :
    Except Error Reading := do
  let stripped := trim line
  let comment := stripped.startsWith "#" || stripped.startsWith ";"
  if comment then return r
  if stripped.isEmpty then return r.extend ""
  let indent := indentOf line
  if r.target.isSome && (r.option.map (!·.isEmpty)).getD false && indent > r.indent then
    return r.extend stripped
  let r := { r with indent }
  if let some name := headerName? stripped then
    if name == defaultSection then
      return { r with target := some .shared, option := none }
    if r.sections.any (·.1 == name) then throw (.duplicateSection file number name)
    return { r with sections := r.sections ++ [(name, [])], target := some (.named name),
                    option := none }
  let some target := r.target | throw (.noSectionHeader file number line)
  match optionParts? stripped with
  | none => return { r with unreadable := r.unreadable ++ [(number, line)] }
  | some (key, value) =>
    let r := if key.isEmpty then { r with unreadable := r.unreadable ++ [(number, line)] } else r
    let opts := r.optionsOf target
    if opts.any (·.1 == key) then
      let sectionName := match target with
        | .shared => defaultSection
        | .named n => n
      throw (.duplicateOption file number sectionName key)
    return { (r.withOptions target (opts ++ [(key, [value])])) with option := some key }

/-- A value from its lines: joined by line breaks, without trailing blanks. -/
def joinValue (lines : List String) : String := trimEnd ("\n".intercalate lines)

/-- The lines of the characters after `line`, the part of a line read so far, each ended by a
    line feed: a carriage return, alone or before a line feed, ends a line as a line feed does.
    A last line without a break is kept as it is. -/
def splitLines (line : List Char) : List Char -> List (List Char)
  | [] => if line.isEmpty then [] else [line]
  | '\r' :: '\n' :: rest | '\r' :: rest | '\n' :: rest => (line ++ ['\n']) :: splitLines [] rest
  | c :: rest => splitLines (line ++ [c]) rest

/-- The lines of a text, each with its line break. -/
def linesOf (text : String) : List String := (splitLines [] text.toList).map String.ofList

/-- Reads a settings file, named `file` in messages, without resolving references. -/
def read (file : String) (text : String) : Except Error Document := do
  let r <- (linesOf text).zipIdx.foldlM (fun r (line, i) => readLine file r (i + 1) line) {}
  if !r.unreadable.isEmpty then throw (.unreadable file r.unreadable)
  let join (opts : List (String × List String)) : Options := opts.map fun (k, v) => (k, joinValue v)
  pure { defaults := join r.defaults, sections := r.sections.map fun (n, o) => (n, join o) }

/-- The name of a reference `%(key)s` at the start of a text, and the text after it. -/
def reference? (cs : List Char) : Option (String × List Char) :=
  match cs with
  | '%' :: '(' :: rest =>
    let key := rest.takeWhile (· != ')')
    match rest.drop key.length with
    | ')' :: 's' :: after => if key.isEmpty then none else some (String.ofList key, after)
    | _ => none
  | _ => none

/-- A value with its references resolved among `options`. `depth` counts the levels of
    nesting still allowed: a value is read at level one, the value of a reference one level
    deeper, and no deeper than `maxDepth`. Errors name the option being resolved, its section
    and its raw value. -/
def resolve (options : Options) (option sectionName raw : String) :
    Nat -> Nat -> List Char -> Except Error String
  | _, 0, _ => .error (.tooDeep option sectionName raw)
  | 0, _ + 1, _ => .error (.tooDeep option sectionName raw)
  | fuel + 1, depth + 1, cs =>
    let before := cs.takeWhile (· != '%')
    let rest := cs.drop before.length
    match rest with
    | [] => .ok (String.ofList before)
    | '%' :: '%' :: after => do
      let tail <- resolve options option sectionName raw fuel (depth + 1) after
      pure (String.ofList before ++ "%" ++ tail)
    | '%' :: '(' :: _ =>
      match reference? rest with
      | none => .error (.badReference ("bad interpolation variable reference " ++
          quoted (String.ofList rest)))
      | some (key, after) => do
        let some v := options.lookup key
          | .error (.missingOption option sectionName key raw)
        let inner <- if v.contains '%' then resolve options option sectionName raw fuel depth v.toList
          else pure v
        let tail <- resolve options option sectionName raw fuel (depth + 1) after
        pure (String.ofList before ++ inner ++ tail)
    | _ => .error (.badReference ("'%' must be followed by '%' or '(', found: " ++
        quoted (String.ofList rest)))

/-- The options of a section, the shared ones first, with their references resolved. -/
def Document.items (d : Document) (sectionName : String) : Except Error Options := do
  let own := (d.sections.lookup sectionName).getD []
  let merged := own.foldl (fun acc (k, v) =>
    if acc.any (·.1 == k) then acc.map fun (k', v') => if k' == k then (k', v) else (k', v')
    else acc ++ [(k, v)]) d.defaults
  -- along any chain of calls, each level reads at most one value, one character a call
  let longest := merged.foldl (fun m (_, v) => max m v.length) 0
  let fuel := (longest + 2) * (maxDepth + 2)
  merged.mapM fun (k, v) => do
    pure (k, <- resolve merged k sectionName v fuel maxDepth v.toList)

/-- Every section with its options resolved, in order. -/
def Document.resolved (d : Document) : Except Error (List (String × Options)) :=
  d.sections.mapM fun (n, _) => do pure (n, <- d.items n)

end Blueprints.Ini
