import Quadrature.C.CType
import Quadrature.C.Extent

/-!
The outline of a source unit: functions, parameters, aliases and the blocks around them.
-/

namespace Quadrature.C

inductive NodeKind where
  | sourceUnit | function | parameter | typeAlias | body | conditional | unexposed
  deriving DecidableEq, Repr, Inhabited

structure Node where
  kind : NodeKind
  spelling : String := ""
  type : Option CType := none
  extent : Extent
  children : List Node := []
  deriving Repr, Inhabited

end Quadrature.C
