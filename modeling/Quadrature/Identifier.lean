import Quadrature.Failure
import Quadrature.Text.Case

/-!
Identifiers. The names a user may choose start with an ASCII letter and go on with ASCII letters,
digits and underscores; names of types are made from them in Pascal case.
-/

namespace Quadrature.Identifier

def isLetter (c : Char) : Bool := ('a' ≤ c && c ≤ 'z') || ('A' ≤ c && c ≤ 'Z')

def isDigit (c : Char) : Bool := '0' ≤ c && c ≤ '9'

def isWordChar (c : Char) : Bool := isLetter c || isDigit c || c == '_'

/-- Accepts a letter followed by letters, digits and underscores. An illegal character is reported
before a missing letter, and that before an illegal start. -/
def check (s : String) : Except Failure Unit :=
  if s.toList.all isWordChar then
    match s.toList with
    | [] => .error .identifierEmpty
    | c :: _ => if isLetter c then .ok () else .error (.identifierStart s)
  else .error (.identifierCharacters s)

def ofJson (v : Json) : Except Failure String :=
  match v with
  | .text s => (check s).map fun _ => s
  | _ => .error (.identifierNotText v)

def capitalised : List Char → List Char
  | [] => []
  | c :: cs => Text.upperChar c ++ cs.flatMap Text.lowerChar

/-- A segment after an underscore; an empty one stands for the underscore after it. -/
def laterSegment : List Char → List Char
  | [] => ['_']
  | cs => capitalised cs

def upperFirst : List Char → List Char
  | [] => []
  | c :: cs => Text.upperChar c ++ cs

/-- A name in Pascal case: underscores at the ends go, those between segments join them. -/
def pascalCase (s : String) : String :=
  let isUnderscore := fun c => c == '_'
  let bare := Text.dropEndWhile isUnderscore (s.toList.dropWhile isUnderscore)
  match Text.splitOn '_' bare with
  | [] => ""
  | first :: rest => String.ofList (upperFirst (Text.lower first ++ rest.flatMap laterSegment))

end Quadrature.Identifier
