/-!
The backends that code can be generated for.
-/

namespace Quadrature

inductive GslAlgorithm where
  | plain
  | miser
  | vegas
deriving DecidableEq, Repr

def GslAlgorithm.name : GslAlgorithm → String
  | .plain => "plain"
  | .miser => "miser"
  | .vegas => "vegas"

inductive Backend where
  | gsl (algorithm : GslAlgorithm)
  | openCl
deriving DecidableEq, Repr

namespace Backend

def name : Backend → String
  | .gsl a => "gsl-" ++ a.name
  | .openCl => "opencl"

def all : List Backend := [.gsl .plain, .gsl .miser, .gsl .vegas, .openCl]

def ofName? (name : String) : Option Backend := all.find? (·.name = name)

def lowerAscii (c : Char) : Char :=
  if 'A' ≤ c && c ≤ 'Z' then Char.ofNat (c.toNat + 32) else c

def ofNameAnyCase? (name : String) : Option Backend :=
  ofName? (String.ofList (name.toList.map lowerAscii))

end Backend

end Quadrature
