import Blueprints.Cli.Cache
import Blueprints.Layout.Format
import Blueprints.Text.Diff

namespace Blueprints.Cli
open Build Text

/-- A path as the path library writes it: empty and `.` parts dropped, and a root of one or of
    exactly two slashes kept; `.` for an empty path. -/
def purePath (p : String) : String :=
  let root := if p.startsWith "//" && !p.startsWith "///" then "//"
    else if p.startsWith "/" then "/" else ""
  let body := "/".intercalate ((p.splitOn "/").filter fun s => !s.isEmpty && s != ".")
  if root.isEmpty && body.isEmpty then "." else root ++ body

/-- A text with its line breaks made line feeds: a carriage return alone or before a line feed
    is one. -/
def uniformBreaks (s : String) : String :=
  String.ofList (go s.toList)
where
  go : List Char -> List Char
    | [] => []
    | '\r' :: '\n' :: rest => '\n' :: go rest
    | '\r' :: rest => '\n' :: go rest
    | c :: rest => c :: go rest

/-- Whether the first line of a text ends with a carriage return and a line feed. -/
def firstLineCrlf (s : String) : Bool :=
  let first := s.toList.takeWhile (· != '\n')
  first.length < s.length && first.getLast? == some '\r'

/-- A text with each line feed written as a carriage return and a line feed. -/
def crlfBreaks (s : String) : String :=
  String.ofList (s.toList.flatMap fun c => if c == '\n' then ['\r', '\n'] else [c])

/-- The fault raised for a source that cannot be laid out. -/
def layoutFault : Layout.LayoutError -> Fault
  | .cannotParse message => .system "InvalidInput" message
  | .indentation line =>
    .system "IndentationError"
      ("unindent does not match any outer indentation level (<tokenize>, line " ++
        toString line ++ ")")

/-- Gives a file its standard layout in place, showing the difference first; `kind` names
    what the file holds, in the messages. -/
def formatFile (kind : String) (file : String) : Build Unit := do
  let path := purePath file
  let raw <- Library.Files.readAt (absolutePath file)
    (.system "FileNotFoundError" ("[Errno 2] No such file or directory: '" ++ path ++ "'"))
  let crlf := firstLineCrlf raw
  let written (s : String) : String := if crlf then crlfBreaks s else s
  let src := uniformBreaks raw
  match Layout.layoutChange src with
  | .error e => throw (layoutFault e)
  | .ok none =>
    logInfo (kind.capitalize ++ " " ++ path ++ " left unchanged.")
  | .ok (some dst) =>
    let name := path ++ "\t" ++ presentTime ++ " +0000"
    print (written (unifiedDiff src dst name name))
    logInfo ("Patching above diff to " ++ kind ++ " - " ++ path)
    Library.Files.writeAt (absolutePath file) (written dst)
    logInfo "All done!"

def formatBlueprintFile (values : ParamValues) : Build Unit :=
  formatFile "blueprint" (textValue values "bp_file")

def formatRunbookFile (values : ParamValues) : Build Unit :=
  formatFile "runbook" (textValue values "runbook_file")

def formatEndpointFile (values : ParamValues) : Build Unit :=
  formatFile "endpoint" (textValue values "endpoint_file")

end Blueprints.Cli
