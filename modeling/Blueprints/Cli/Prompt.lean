import Blueprints.Session

namespace Blueprints.Cli

open Build Build

/-- Reads one line of the standard input, without its line break; `none` when the input has
    ended. -/
def readLine : Build (Option String) := do
  let s <- get
  if s.input.isEmpty then return none
  let line := s.input.takeWhile (· != '\n') |>.toString
  let rest := (s.input.dropWhile (· != '\n')).toString
  let rest := if rest.startsWith "\n" then String.ofList (rest.toList.drop 1) else rest
  set { s with input := rest }
  pure (some (String.ofList (line.toList.filter (· != '\r'))))

def echo (text : String) : Build Unit := print (text ++ "\n")

/-- Asks one question and reads the answer: a visible answer is written back after the
    question; a hidden one only ends the line. At the end of the input the program stops. -/
def askLine (question : String) (hide : Bool) : Build String := do
  print (String.ofList (question.toList.reverse.dropWhile (· == ' ')).reverse ++ " ")
  if hide then print "\n"
  match <- readLine with
  | some answer =>
    if !hide then print (answer ++ "\n")
    pure answer
  | none =>
    if hide then print "\n"
    throw .aborted

/-- The question as it is shown: the text, the choices in parentheses, the default in brackets,
    and the suffix. -/
def questionText (text : String) (choices : List String) (default : Option String)
    (suffix : String := ": ") : String :=
  let withChoices := if choices.isEmpty then text else text ++ " (" ++ ", ".intercalate choices ++ ")"
  let withDefault := match default with
    | some d => withChoices ++ " [" ++ d ++ "]"
    | none => withChoices
  withDefault ++ suffix

/-- A question and how its answers are taken. -/
structure Question where
  text : String
  default : Option String := none
  hide : Bool := false
  confirm : Bool := false
  choices : List String := []

/-- Asks a question until an answer passes the check. The input is finite, and every round reads
    a line or stops, so the rounds are bounded by the lines left. -/
def ask {α : Type} (q : Question) (check : String -> Build (Except String α)) : Build α := do
  let shown := questionText q.text q.choices q.default
  let rounds := ((<- get).input.splitOn "\n").length + 2
  let rec loop : Nat -> Build α
    | 0 => throw .aborted
    | n + 1 => do
      let mut answer <- askLine shown q.hide
      if answer.isEmpty then
        match q.default with
        | some d => answer := d
        | none => return <- loop n
      match <- check answer with
      | .error msg =>
        echo (if q.hide then "Error: The value you entered was invalid." else "Error: " ++ msg)
        loop n
      | .ok v =>
        if !q.confirm then return v
        let second <- askLine (questionText "Repeat for confirmation" [] none) q.hide
        if second == answer then return v
        echo "Error: The two entered values do not match."
        loop n
  loop rounds

def askText (q : Question) : Build String := ask q fun a => pure (.ok a)

def confirm (text : String) (default : Option Bool := some false) : Build Bool := do
  let shown := text ++ " [" ++ (match default with
    | none => "y/n"
    | some true => "Y/n"
    | some false => "y/N") ++ "]: "
  let rounds := ((<- get).input.splitOn "\n").length + 2
  let rec loop : Nat -> Build Bool
    | 0 => throw .aborted
    | n + 1 => do
      let answer := (<- askLine shown false).trimAscii.toString.toLower
      if answer == "y" || answer == "yes" then return true
      if answer == "n" || answer == "no" then return false
      match default, answer.isEmpty with
      | some d, true => return d
      | _, _ =>
        echo "Error: invalid input"
        loop n
  loop rounds

/-- Asks a question whose empty answer stands for a value that is not shown, and converts the
    answer, or that value, by a check; with no value to stand for, an empty answer asks again.
    The rounds are bounded by the lines left, as for `ask`. -/
def askValue {α : Type} (text : String) (default : Value) (hide : Bool)
    (check : Value -> Build (Except String α)) : Build α := do
  let noDefault := match default with
    | .none => true
    | _ => false
  let rounds := ((<- get).input.splitOn "\n").length + 2
  let rec loop : Nat -> Build α
    | 0 => throw .aborted
    | n + 1 => do
      let answer <- askLine (text ++ ": ") hide
      if answer.isEmpty && noDefault then loop n
      else
        match <- check (if answer.isEmpty then default else .str answer) with
        | .error msg =>
          echo (if hide then "Error: The value you entered was invalid." else "Error: " ++ msg)
          loop n
        | .ok v => pure v
  loop rounds

end Blueprints.Cli
