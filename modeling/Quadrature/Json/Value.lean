import Quadrature.Decimal.Binary64

/-!
JSON values. Whole numbers and fractions are kept apart, and the members of an object keep the order
in which they are listed.
-/

namespace Quadrature

inductive Json where
  | null
  | flag (value : Bool)
  | integer (value : Int)
  | float (value : Binary64)
  | text (value : String)
  | list (items : List Json)
  | object (members : List (String × Json))
deriving Repr, Inhabited

namespace Json

def text? : Json → Option String
  | .text s => some s
  | _ => none

def list? : Json → Option (List Json)
  | .list xs => some xs
  | _ => none

def get? : Json → String → Option Json
  | .object ms, key => ms.lookup key
  | _, _ => none

def texts (xs : List String) : Json := .list (xs.map .text)

def natural (n : Nat) : Json := .integer n

end Json

end Quadrature
