
namespace Blueprints

/-- Why an operation stops. -/
inductive Fault where
  | exit (status : String)
  | invalid (message : String)
  | wrongType (message : String)
  | badValue (message : String)
  | missingKey (key : String)
  | missingAttribute (message : String)
  | outOfRange (message : String)
  | unboundName (message : String)
  | unboundLocal (message : String)
  | overflow (message : String)
  | zeroDivision (message : String)
  | notJson (message : String)
  | failure (message : String)
  | runtime (message : String)
  | tooDeep
  | endless
  | badRequest (message : String)
  | unsupported (message : String)
  | undefined (message : String)
  | notImplemented (message : String)
  | usage (message : String)
  | aborted
  | importFailure (message : String)
  | system (kind message : String)
deriving Repr, Inhabited, BEq

namespace Fault

/-- The name of the kind of a fault, as answers report it. -/
def kind : Fault -> String
  | .exit _ => "SystemExit"
  | .invalid _ => "validation_error"
  | .wrongType _ => "TypeError"
  | .badValue _ => "ValueError"
  | .missingKey _ => "KeyError"
  | .missingAttribute _ => "AttributeError"
  | .outOfRange _ => "IndexError"
  | .unboundName _ => "NameError"
  | .unboundLocal _ => "UnboundLocalError"
  | .overflow _ => "OverflowError"
  | .zeroDivision _ => "ZeroDivisionError"
  | .notJson _ => "JSONDecodeError"
  | .failure _ => "Exception"
  | .runtime _ => "RuntimeError"
  | .tooDeep => "RecursionError"
  | .endless => "Endless"
  | .badRequest _ => "BadRequest"
  | .unsupported _ => "DriverError"
  | .undefined _ => "UndefinedError"
  | .notImplemented _ => "NotImplementedError"
  | .usage _ => "UsageError"
  | .aborted => "Abort"
  | .importFailure _ => "ImportError"
  | .system kind _ => kind

def message : Fault -> String
  | .exit s | .invalid s | .wrongType s | .badValue s | .missingKey s | .missingAttribute s
  | .outOfRange s | .unboundName s | .unboundLocal s | .overflow s | .zeroDivision s | .notJson s | .failure s | .runtime s | .badRequest s
  | .unsupported s | .undefined s | .notImplemented s | .usage s | .importFailure s
  | .system _ s => s
  | .tooDeep => "maximum recursion depth exceeded"
  | .endless => "the loop does not end"
  | .aborted => ""

/-- Whether a handler of errors catches the fault: every fault but the ending of the program,
    on purpose or by the user, and a loop that does not end. -/
def catchable : Fault -> Bool
  | .exit _ | .aborted | .endless => false
  | _ => true

end Fault

end Blueprints
