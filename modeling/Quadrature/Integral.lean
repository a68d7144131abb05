import Quadrature.FunctionDeclaration
import Quadrature.Identifier

/-!
Integrals of functions. The integral of an integrand takes, for each argument, a lower and an upper
bound of the argument's type, and last a pointer that receives the error estimate and may be left out.
-/

namespace Quadrature

structure Integral where
  integrand : FunctionDeclaration
  declaration : FunctionDeclaration
  defaults : List (Option String)
  dimensions : Nat
deriving Repr

namespace Integral

def errorName : String := "error"

def nullPointer : String := "NULL"

def boundBase (index : Nat) (name : String) : String :=
  if name = "" then "var_" ++ toString (index + 1) else name

def bounds (index : Nat) (a : Argument) : List Argument :=
  let base := boundBase index a.name
  [⟨a.type, base ++ "_min"⟩, ⟨a.type, base ++ "_max"⟩]

def boundsFrom (index : Nat) : List Argument → List Argument
  | [] => []
  | a :: as => bounds index a ++ boundsFrom (index + 1) as

def chooseName (integrand : FunctionDeclaration) : Option String → Except Failure String
  | some name =>
    match Identifier.check name with
    | .ok () => .ok name
    | .error f => .error f
  | none => .ok (integrand.name ++ "_integral")

def derive (integrand : FunctionDeclaration) (name : Option String) : Except Failure Integral :=
  match chooseName integrand name with
  | .error f => .error f
  | .ok name =>
    let bounds := boundsFrom 0 integrand.arguments
    let error : Argument := ⟨integrand.returnType ++ " *", errorName⟩
    .ok {
      integrand
      declaration :=
        { name, returnType := integrand.returnType, arguments := bounds ++ [error] }
      defaults := List.replicate bounds.length none ++ [some nullPointer]
      dimensions := bounds.length / 2 }

def name (i : Integral) : String := i.declaration.name

def returnType (i : Integral) : String := i.declaration.returnType

def alternate {α : Type} : List α → List α
  | [] => []
  | [x] => [x]
  | x :: _ :: xs => x :: alternate xs

def boundNames (i : Integral) : List String := i.declaration.argumentNames.take (2 * i.dimensions)

def lowerBounds (i : Integral) : List String := alternate i.boundNames

def upperBounds (i : Integral) : List String := alternate (i.boundNames.drop 1)

def signature (i : Integral) : String := i.declaration.signature

def withDefault (a : Argument) : Option String → String
  | some value => a.type ++ " " ++ a.name ++ " = " ++ value
  | none => a.type ++ " " ++ a.name

def signatureWithDefaults (i : Integral) : String :=
  i.returnType ++ " " ++ i.name ++ "(" ++
    Text.join ", " (i.declaration.arguments.zipWith withDefault i.defaults) ++ ")"

def dependencies (i : Integral) : List String := i.declaration.dependencies

def addDependency (i : Integral) (dependency : String) : Except Failure Integral :=
  match i.declaration.addDependency dependency with
  | .error f => .error f
  | .ok d => .ok { i with declaration := d }

def addDependencies (i : Integral) : List String → Except Failure Integral
  | [] => .ok i
  | x :: xs =>
    match i.addDependency x with
    | .error f => .error f
    | .ok j => j.addDependencies xs

end Integral

end Quadrature
