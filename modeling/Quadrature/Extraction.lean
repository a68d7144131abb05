import Quadrature.C.Node
import Quadrature.FunctionDeclaration

/-!
Extraction of the function declarations from an outline. The outline is walked from the first node to
the last with a list of the nodes still to visit; nothing below a function is visited.
-/

namespace Quadrature

namespace C

mutual

def Node.count : Node → Nat
  | ⟨_, _, _, _, children⟩ => countNodes children + 1

def countNodes : List Node → Nat
  | [] => 0
  | n :: ns => n.count + countNodes ns

end

def Node.parameterNames (n : Node) : List String :=
  (n.children.filter (·.kind = .parameter)).map Node.spelling

def Node.returnTypeName (n : Node) : String :=
  match n.type.bind CType.result? with
  | some t => t.name
  | none => ""

def Node.argumentTypeNames (n : Node) : List String :=
  match n.type with
  | some t => t.arguments.map CType.name
  | none => []

end C

namespace Extraction

def record (path : String) (n : C.Node) : Except Failure FunctionDeclaration :=
  let types := n.argumentTypeNames
  let names := n.parameterNames
  if names.length ≠ types.length then
    .error (.parameterCounts path n.spelling names.length types.length)
  else
    match FunctionDeclaration.make n.spelling n.returnTypeName types names with
    | .error f => .error f
    | .ok d => .ok (d.withSource path n.extent)

/-- Visits pending nodes in order, with fuel for each visit; what is found is kept backwards. -/
def visit (path : String) : Nat → List C.Node → List FunctionDeclaration →
    Except Failure (List FunctionDeclaration)
  | 0, _, found => .ok found.reverse
  | _, [], found => .ok found.reverse
  | fuel + 1, n :: pending, found =>
    if n.kind = .function then
      match record path n with
      | .error f => .error f
      | .ok d => visit path fuel pending (d :: found)
    else visit path fuel (n.children ++ pending) found

def declarations (path : String) (root : C.Node) : Except Failure (List FunctionDeclaration) :=
  visit path root.count [root] []

end Extraction

end Quadrature
