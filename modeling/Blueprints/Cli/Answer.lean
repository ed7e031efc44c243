import Blueprints.Cli.Commands

namespace Blueprints.Cli
open Json

/-- How a run of the command line ended: its status, the text it wrote at the end, and the
    error that escaped it, if one did. -/
structure Ending where
  status : Int
  farewell : String := ""
  escaped : Option (String × String) := none

/-- How a run ended, from the fault that stopped it, if one did. -/
def endingOf : Except Fault Unit -> Ending
  | .ok () => { status := 0 }
  | .error (.exit s) =>
    match s.toInt? with
    | some n => { status := n }
    | none => { status := 1, farewell := s ++ "\n" }
  | .error .aborted => { status := 1, farewell := "Aborted!\n" }
  | .error (.system "EOFError" _) => { status := 1, farewell := "\nAborted!\n" }
  | .error f => { status := 1, escaped := some (f.kind, f.message) }

/-- The files of the working directory that a run created or changed, sorted by path. -/
def changedFiles (before after : List (String × String)) : List (String × Json) :=
  let changed := after.filter fun (p, text) => !(before.any fun (q, old) => q == p && old == text)
  (changed.mergeSort fun a b => decide (a.1 ≤ b.1)).map fun (p, text) => (p, .str text)

/-- The words of a run, which must all be texts. -/
def wordsOf (j : Json) : Option (List String) :=
  match j with
  | .arr items => items.mapM str?
  | _ => none

/-- The session a run starts from: its input, its files and its server's own routes. -/
def startSession (req : Json) : Session :=
  let files := match req.get? "files" with
    | some (.obj fs) => fs.filterMap fun (k, v) => v.str?.map (k, ·)
    | _ => []
  let routes := match req.get? "server" with
    | some (.arr rs) => rs
    | _ => []
  let input := match req.get? "stdin" with
    | some (.str s) => s
    | _ => ""
  { files, input, server := Http.Server.ofJson routes }

/-- The answer to one run of the command line from a session, and the session it leaves. -/
def runWords (start : Session) (words : List String) : Json × Session :=
  let (result, s) := (invoke (commandAction Evaluator.runtime) words).run.run start
  let ending := endingOf result
  let output := s.output ++ ending.farewell
  let log := s.log.toList.map fun (level, msg) => str (level.name ++ ": " ++ msg)
  let files := changedFiles start.files s.files
  let answer := obj ([("exit_code", .int ending.status), ("output", .str output),
         ("requests", .arr (s.sent.toList.map Http.Request.record))] ++
    (if files.isEmpty then [] else [("files", .obj files)]) ++
    (match ending.escaped with
      | some (kind, message) => [("exception", .obj [("type", .str kind), ("message", .str message)])]
      | none => []) ++
    (if log.isEmpty then [] else [("log", .arr log)]))
  (answer, s)

/-- The refusal of words that are not all texts. -/
def badWords : Json :=
  .obj [("error", .str "DriverError"), ("message", .str "args must be a list of strings")]

/-- The answer to one run of the command line. -/
def answer (req : Json) : Json :=
  match wordsOf ((req.get? "args").getD .null) with
  | none => badWords
  | some words => (runWords (startSession req) words).1

/-- The session of the next command a user types after one that left session `s`: the
    environment, the files, the cache with its version, and the server stay; the rest starts
    afresh, with the next command's standard input. -/
def nextSession (s : Session) (input : String) : Session :=
  { environment := s.environment, files := s.files, cache := s.cache, version := s.version,
    server := s.server, secretStore := s.secretStore, settingsFile := s.settingsFile, input }

/-- The answer to commands typed one after the other in one working directory, one answer a
    command. -/
def answerSequence (req : Json) : Json :=
  match req.get? "steps" with
  | some (.arr steps) =>
    let start := startSession req
    let (answers, _) := steps.foldl (fun (acc : List Json × Session) step =>
      let (answers, s) := acc
      let input := match step.get? "stdin" with
        | some (.str t) => t
        | _ => ""
      match wordsOf ((step.get? "args").getD .null) with
      | none => (answers ++ [badWords], s)
      | some words =>
        let (answer, after) := runWords (nextSession s input) words
        (answers ++ [answer], after)) ([], start)
    .obj [("steps", .arr answers)]
  | _ => .obj [("error", .str "DriverError"), ("message", .str "steps must be a list")]

end Blueprints.Cli
