import Quadrature.C.Kind

/-!
C types as a declaration gives them: a basic type keeps its spelling, an alias keeps its name and
what it stands for, and pointers, arrays and functions are built from other types.
-/

namespace Quadrature.C

inductive CType where
  | basic (kind : Kind) (spelling : String)
  | named (name : String) (target : CType)
  | pointer (pointee : CType)
  | array (element : CType) (sized : Bool)
  | function (result : CType) (arguments : List CType) (prototyped : Bool)
  deriving Repr, Inhabited

namespace CType

def int : CType := .basic .int "int"

def kind : CType → Kind
  | basic k _ => k
  | named _ _ => .typedef
  | pointer _ => .pointer
  | array _ sized => if sized then .constantArray else .incompleteArray
  | function _ _ prototyped => if prototyped then .functionProto else .functionNoProto

def spelling : CType → String
  | basic _ s => s
  | named name _ => name
  | pointer t => t.spelling ++ " *"
  | array t _ => t.spelling ++ " []"
  | function t _ _ => t.spelling ++ " ()"

def canonical : CType → CType
  | named _ t => t.canonical
  | t => t

def result? (t : CType) : Option CType :=
  match t.canonical with
  | function r _ _ => some r
  | _ => none

def arguments (t : CType) : List CType :=
  match t.canonical with
  | function _ as _ => as
  | _ => []

def decayed (t : CType) : CType :=
  match t.canonical with
  | array e _ => pointer e
  | function r as p => pointer (function r as p)
  | basic k _ =>
    if k.isArray then pointer (basic .invalid "")
    else if k.isFunction then pointer t.canonical
    else t
  | _ => t

def name (t : CType) : String :=
  t.canonical.kind.spelled

def isFunction (t : CType) : Bool :=
  t.canonical.kind.isFunction

def isArray (t : CType) : Bool :=
  t.canonical.kind.isArray

end CType

end Quadrature.C
