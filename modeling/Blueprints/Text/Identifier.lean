import Blueprints.Text.IdentifierChar

namespace Blueprints.Text

def isIdentifier (s : String) : Bool :=
  match s.toList with
  | [] => false
  | c :: cs => (c == '_' || isIdentStart c) && cs.all isIdentContinue

/-- Whether a character is an ASCII letter, an ASCII digit or the underscore. -/
def isWordChar (c : Char) : Bool := c.isAlphanum || c == '_'

/-- An identifier made from a non-empty text; the empty text is kept. -/
def validIdentifier (s : String) : String :=
  if s.isEmpty || isIdentifier s then s
  else
    let kept := String.ofList (s.toList.filter isWordChar)
    if isIdentifier kept then kept else "_" ++ kept

theorem validIdentifier_of_isIdentifier {s : String} (h : isIdentifier s = true) :
    validIdentifier s = s := by
  simp [validIdentifier, h]

end Blueprints.Text
