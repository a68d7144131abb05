import Quadrature.C.Extent
import Quadrature.Failure

/-!
Function declarations: a name, a return type and arguments, each a type with a name that may be empty.
A declaration may be bound to a place in a file. Its text is read from there when it is first asked
for, and remembered; the includes it needs are kept in the order in which they are added.
-/

namespace Quadrature

structure Argument where
  type : String
  name : String
deriving DecidableEq, Repr

def Argument.written (a : Argument) : String :=
  if a.name = "" then a.type else a.type ++ " " ++ a.name

structure SourceBinding where
  path : String
  extent : C.Extent
deriving DecidableEq, Repr

structure FunctionDeclaration where
  name : String
  returnType : String
  arguments : List Argument
  source : Option SourceBinding := none
  remembered : Option String := none
  dependencies : List String := []
deriving DecidableEq, Repr

def isPrototypeText (text : String) : Bool :=
  let last := (Text.trim text).toList.getLast?
  last == some ')' || last == some ';'

namespace FunctionDeclaration

def make (name returnType : String) (types names : List String) :
    Except Failure FunctionDeclaration :=
  if name = "" then .error .declarationUnnamed
  else if types.length ≠ names.length then
    .error (.argumentCounts name types.length names.length)
  else .ok { name, returnType, arguments := types.zipWith Argument.mk names }

def argumentTypes (d : FunctionDeclaration) : List String := d.arguments.map Argument.type

def argumentNames (d : FunctionDeclaration) : List String := d.arguments.map Argument.name

def arity (d : FunctionDeclaration) : Nat := d.arguments.length

def path? (d : FunctionDeclaration) : Option String := d.source.map SourceBinding.path

def extent? (d : FunctionDeclaration) : Option C.Extent := d.source.map SourceBinding.extent

/-- Binds the declaration to a place in a file. A remembered text stays. -/
def withSource (d : FunctionDeclaration) (path : String) (extent : C.Extent) :
    FunctionDeclaration :=
  { d with source := some ⟨path, extent⟩ }

def withText (d : FunctionDeclaration) (text : String) : FunctionDeclaration :=
  { d with remembered := some text }

def text? (d : FunctionDeclaration) (files : Store) : Option String :=
  match d.remembered with
  | some t => some t
  | none =>
    match d.source with
    | none => none
    | some b =>
      match files.readText b.path with
      | .ok content => some (b.extent.slice content)
      | .error _ => none

/-- The declaration after its text has been asked for. A failed reading leaves no trace. -/
def recalling (d : FunctionDeclaration) (files : Store) : FunctionDeclaration :=
  { d with remembered := d.text? files }

def hasBody (d : FunctionDeclaration) (files : Store) : Bool :=
  match d.text? files with
  | some t => t ≠ "" && !isPrototypeText t
  | none => false

def parameterList (d : FunctionDeclaration) : String :=
  Text.join ", " (d.arguments.map Argument.written)

def signature (d : FunctionDeclaration) : String :=
  d.returnType ++ " " ++ d.name ++ "(" ++ d.parameterList ++ ")"

def addDependency (d : FunctionDeclaration) (dependency : String) :
    Except Failure FunctionDeclaration :=
  if Text.trim dependency = "" then .error .dependencyBlank
  else .ok { d with dependencies := d.dependencies ++ [dependency] }

def addDependencies (d : FunctionDeclaration) : List String → Except Failure FunctionDeclaration
  | [] => .ok d
  | x :: xs =>
    match d.addDependency x with
    | .error f => .error f
    | .ok e => e.addDependencies xs

def addSourceDependency (d : FunctionDeclaration) (n : Nat) :
    Except Failure FunctionDeclaration :=
  if n < 1 then .error .noPathComponents
  else
    match d.path? with
    | none => .ok d
    | some path =>
      let names := Path.names path
      d.addDependency (Text.join "/" (names.drop (names.length - n)))

end FunctionDeclaration

end Quadrature
