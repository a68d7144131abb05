import Quadrature.Decimal.Binary64

/-!
TOML values. A table remembers how it came about, because that decides what may be added to it.
-/

namespace Quadrature.Toml

/-- How a table came about: by a header of its own, by the header of a table below it, by a dotted
key, or as a value. -/
inductive Origin where
  | header
  | implied
  | dotted
  | inline
deriving DecidableEq, Repr

inductive Value where
  | text (value : String)
  | integer (value : Int)
  | float
  | flag (value : Bool)
  | date
  | list (items : List Value)
  | table (origin : Origin) (members : List (String × Value))
  | tables (items : List (List (String × Value)))
deriving Repr, Inhabited

abbrev Members := List (String × Value)

def Members.put (key : String) (v : Value) : Members → Members
  | [] => [(key, v)]
  | (k, w) :: ms => if k = key then (key, v) :: ms else (k, w) :: Members.put key v ms

end Quadrature.Toml
