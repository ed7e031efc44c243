
namespace Blueprints.Text

/-- The marker that stands for the working directory. -/
def workingDirMarker : String := "<CWD>"

/-- The marker that stands for the home directory. -/
def homeDirMarker : String := "<HOME>"

def isAbsolutePath (p : String) : Bool :=
  p.startsWith "/" || p.startsWith workingDirMarker || p.startsWith homeDirMarker

/-- Joins two paths: an absolute second path stands alone, and an empty first path adds
    nothing. -/
def joinPath (a b : String) : String :=
  if isAbsolutePath b || a.isEmpty then b
  else if a.endsWith "/" then a ++ b
  else a ++ "/" ++ b

/-- The directory part of a path: what stands before its last `/`, or nothing when it has
    none. -/
def dirName (p : String) : String :=
  let parts := p.splitOn "/"
  match parts.dropLast with
  | [] => ""
  | [""] => "/"
  | front => "/".intercalate front

def baseName (p : String) : String := ((p.splitOn "/").getLast?).getD p

/-- Drops empty and `.` parts, and lets `..` cancel the part before it. -/
def normalParts : List String -> List String -> List String
  | [], acc => acc.reverse
  | "" :: rest, acc | "." :: rest, acc => normalParts rest acc
  | ".." :: rest, _ :: acc => normalParts rest acc
  | ".." :: rest, [] => normalParts rest [".."]
  | p :: rest, acc => normalParts rest (p :: acc)

def normalizePath (p : String) : String :=
  let body := "/".intercalate (normalParts (p.splitOn "/") [])
  if p.startsWith "/" then "/" ++ body
  else if body.isEmpty then "." else body

/-- The absolute, normal form of a path of the working directory. -/
def absolutePath (p : String) : String :=
  normalizePath (joinPath workingDirMarker p)

/-- The path of a place inside the working directory relative to it, or `none` for a place
    outside it. The directory itself is `.`. -/
def relativeToWorkingDir (p : String) : Option String :=
  let a := absolutePath p
  if a == workingDirMarker then some "."
  else if a.startsWith (workingDirMarker ++ "/") then
    some (String.ofList (a.toList.drop (workingDirMarker.length + 1)))
  else none

end Blueprints.Text
