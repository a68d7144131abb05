import Quadrature.C.Guard
import Quadrature.C.Outline
import Quadrature.C.Scan

/-!
Reading C source into an outline.
-/

namespace Quadrature.C

structure SyntaxError where
  line : Nat
  deriving DecidableEq, Repr

def SourceUnit.outline (u : SourceUnit) : Node where
  kind := .sourceUnit
  extent := u.extent
  children := (outlineItems [] u.items).1

def readSource (source : String) : Except SyntaxError Node :=
  match SourceUnit.read (Guard.mask source) with
  | .ok u => .ok u.outline
  | .error p => .error ⟨p.line⟩

def fileExtensions : List String := ["c", "h", "cl"]

end Quadrature.C
