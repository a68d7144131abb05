import Quadrature.Text.Blank

/-!
Regions that only a C++ compiler reads. A header guards them by tests of `__cplusplus`; blanking
their lines leaves the text that a C compiler sees, with every other byte at its place.
-/

namespace Quadrature.C.Guard

/-- An open conditional: whether it tests `__cplusplus`, and whether its present branch is for C++
alone. -/
structure Branch where
  tests : Bool
  excluded : Bool
  deriving DecidableEq, Repr

/-- The conditionals open at a line, innermost first, and whether the line before it was a directive
that ends in a backslash. -/
structure State where
  branches : List Branch
  continued : Bool
  deriving DecidableEq, Repr

def State.initial : State := ⟨[], false⟩

def State.excludes (s : State) : Bool :=
  s.branches.any Branch.excluded

def directive (body : List Char) : String × String :=
  let text := ((body.dropWhile Text.isBlank).dropWhile (· == '#')).dropWhile Text.isBlank
  let ends := fun c => Text.isBlank c || c == '('
  (String.ofList (text.takeWhile (fun c => !ends c)),
    String.ofList ((text.dropWhile (fun c => !ends c)).filter (fun c => !Text.isBlank c)))

def isTest (condition : String) : Bool :=
  condition == "__cplusplus" || condition == "defined(__cplusplus)" ||
    condition == "defined__cplusplus"

def track (branches : List Branch) (body : List Char) : List Branch :=
  let (word, condition) := directive body
  match word with
  | "ifdef" => ⟨condition == "__cplusplus", condition == "__cplusplus"⟩ :: branches
  | "ifndef" => ⟨condition == "__cplusplus", false⟩ :: branches
  | "if" => ⟨isTest condition, isTest condition⟩ :: branches
  | "else" =>
    match branches with
    | ⟨true, excluded⟩ :: rest => ⟨true, !excluded⟩ :: rest
    | _ => branches
  | "elif" | "elifdef" | "elifndef" =>
    match branches with
    | ⟨true, _⟩ :: rest => ⟨true, false⟩ :: rest
    | _ => branches
  | "endif" => branches.tail
  | _ => branches

/-- A line without its terminator, a run of line feeds and carriage returns. -/
def body (line : List Char) : List Char :=
  Text.dropEndWhile (fun c => c == '\n' || c == '\r') line

def terminator (line : List Char) : List Char :=
  line.drop (body line).length

def State.isDirective (s : State) (line : List Char) : Bool :=
  s.continued || ((body line).dropWhile Text.isBlank).head? == some '#'

def State.next (s : State) (line : List Char) : State :=
  if s.isDirective line then
    ⟨if s.continued then s.branches else track s.branches (body line),
      (body line).getLast? == some '\\'⟩
  else s

/-- A line with one space for each byte before its terminator. -/
def blank (line : List Char) : List Char :=
  List.replicate (Text.byteLength (body line)) ' ' ++ terminator line

def State.mask (s : State) (line : List Char) : List Char :=
  if s.isDirective line then line
  else if s.excludes then blank line
  else line

def maskLines (s : State) : List (List Char) → List (List Char)
  | [] => []
  | line :: rest => s.mask line :: maskLines (s.next line) rest

def mask (source : String) : String :=
  String.ofList (maskLines .initial (Text.lines source.toList)).flatten

end Quadrature.C.Guard
