import Blueprints.Library.Machines
import Blueprints.Yaml.Render

namespace Blueprints.Library.CloudInit
open Build

/-- The layout of user data: a plain YAML dump, lines of text as literal blocks. -/
def userDataLayout : Yaml.Layout := {}

/-- Text with the blanks at its start dropped. -/
def dropBlanks (s : String) : String := String.ofList (s.toList.dropWhile Text.isBlankChar)

/-- How many macros the quote `q` opens: the quote right before `@@{`. -/
def openings (q : String) (text : String) : Nat := (text.splitOn (q ++ "@@\x7b")).length - 1

/-- How many macros the quote `q` closes: `}@@`, blanks, then the quote. -/
def closings (q : String) (text : String) : Nat :=
  ((text.splitOn "\x7d@@").drop 1).countP fun after => (dropBlanks after).startsWith q

/-- Takes the quote `q` away around every macro, with the blanks between quote and macro. -/
def unquote (q : String) (text : String) : String :=
  let opened := match text.splitOn (q ++ "@@\x7b") with
    | first :: rest => "@@\x7b".intercalate (first :: rest.map dropBlanks)
    | [] => text
  match opened.splitOn "\x7d@@" with
  | first :: rest =>
    "\x7d@@".intercalate (first :: rest.map fun after =>
      let trimmed := dropBlanks after
      if trimmed.startsWith q then String.ofList (trimmed.toList.drop q.length) else after)
  | [] => opened

/-- Whether a line of text holds a macro: `@@{`, then `}@@` later on the line. -/
def holdsMacro (text : String) : Bool :=
  (text.splitOn "\n").any fun line =>
    match line.splitOn "@@\x7b" with
    | _ :: rest => rest.length > 0 && (("@@\x7b".intercalate rest).splitOn "\x7d@@").length > 1
    | [] => false

/-- The user data of a configuration, with the quotes around its macros taken away. -/
def userData (config : Json) : Build String := do
  let text := "#cloud-config\n" ++ Yaml.render userDataLayout config
  for q in ["'", "\""] do
    if openings q text != closings q text then exitWith "Invalid cloud_init found"
  pure (unquote "\"" (unquote "'" text))

/-- A cloud-init customization from a configuration, or else from the file `filename`. -/
def cloudInit (r : Runtime) (filename config : Value) : Build Value := do
  if config.truthy then
    Machines.cloudInitWith (.str (<- userData (<- r.encode false [] config)))
  else
    let path <- match filename with
      | .str p => pure p
      | v => throw (.wrongType ("join() argument must be str, bytes, or os.PathLike object, " ++
          "not '" ++ v.typeName ++ "'"))
    let text <- Build.readFile path
    let trimmed := dropBlanks text
    if trimmed.startsWith "|-" || trimmed.startsWith "\x7b" || !holdsMacro text then
      throw (.unsupported "reading cloud-init data from a YAML file")
    Machines.cloudInitWith (.str text)

/-- The cloud-init constructor, by the name that a path resolves to. -/
def builtin? (r : Runtime) (name : String) : Option Builtin :=
  match name with
  | "AhvVmGC.CloudInit" =>
    some (ctor name [opt "filename" .none, opt "config" (.dict [])] fun b =>
      cloudInit r (b.get "filename") (b.get "config"))
  | _ => none

end Blueprints.Library.CloudInit
