/-!
Sets of code points as run lengths: the numbers count, in turn, code points outside and inside the
set, starting from zero; what follows the last run is outside.
-/

namespace Quadrature.Text

def runsContain (inside : Bool) : List Nat → Nat → Bool
  | [], _ => false
  | r :: rs, n => if n < r then inside else runsContain (!inside) rs (n - r)

def inRuns (runs : List Nat) (c : Char) : Bool :=
  runsContain false runs c.toNat

end Quadrature.Text
