import Quadrature.Identifier

/-!
What a user can choose about generated code: the name under which the header is included, the number
of evaluations and a banner.
-/

namespace Quadrature

def guardChar (c : Char) : Char :=
  if Identifier.isLetter c || Identifier.isDigit c then
    if 'a' ≤ c && c ≤ 'z' then Char.ofNat (c.toNat - 32) else c
  else '_'

/-- The include guard of a header: the name in upper case from its first letter or digit on, with a
letter in front when that is a digit. -/
def includeGuard (header : String) : String :=
  let guard := (header.toList.map guardChar).dropWhile (· = '_')
  match guard with
  | [] => ""
  | c :: _ => if Identifier.isDigit c then String.ofList ('H' :: '_' :: guard) else String.ofList guard

structure GenerationOptions where
  headerName : String
  guard : String
  calls : Nat
  banner : Option String
deriving DecidableEq, Repr

namespace GenerationOptions

def defaultCalls : Nat := 500000

def make (headerName : String) : Except Failure GenerationOptions :=
  if Text.trim headerName = "" then .error .headerNameBlank
  else
    let guard := includeGuard headerName
    match Identifier.check guard with
    | .error f => .error f
    | .ok () => .ok { headerName, guard, calls := defaultCalls, banner := none }

def withCalls (o : GenerationOptions) (calls : Nat) : Except Failure GenerationOptions :=
  if calls < 1 then .error .tooFewCalls else .ok { o with calls }

def withBanner (o : GenerationOptions) (banner : String) : GenerationOptions :=
  { o with banner := some banner }

end GenerationOptions

end Quadrature
