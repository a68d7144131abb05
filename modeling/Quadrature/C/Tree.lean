import Quadrature.C.Extent

/-!
C declarations as they are written: specifiers, declarators, parameter lists and the items of a
source unit. Statements and expressions are not kept.
-/

namespace Quadrature.C

inductive Tag where
  | struct | union | enumeration
  deriving DecidableEq, Repr

/-- The type a declaration starts from. A sized type keeps its source text, blanks and comments
included, and so does a type written as the call of a name. -/
inductive Specifier where
  | primitive (name : String)
  | sized (text : String)
  | named (name : String)
  | tagged (tag : Tag) (name : String)
  | call (text : String)
  deriving DecidableEq, Repr

mutual

/-- What a declaration does to its type, from the outside in. A `hidden` declarator is one whose
name does not count, and `absent` is the place of a name that is not there. -/
inductive Declarator where
  | absent
  | hidden
  | name (text : String)
  | pointer (inner : Declarator)
  | array (sized : Bool) (inner : Declarator)
  | function (parameters : Parameters) (inner : Declarator)
  | parens (inner : Declarator)
  | initialised (inner : Declarator)

inductive Parameters where
  | none
  | name (text : String) (extent : Extent) (rest : Parameters)
  | variadic (rest : Parameters)
  | typed (specifier : Specifier) (declarator : Declarator) (extent : Extent) (rest : Parameters)

end

deriving instance Repr for Declarator
deriving instance Repr for Parameters

structure Declaration where
  extent : Extent
  specifier : Specifier
  declarators : List Declarator
  deriving Repr

inductive Item where
  | definition (extent : Extent) (specifier : Specifier) (declarator : Declarator)
      (oldStyle : List Declaration) (bodyExtent : Extent) (locals : List Declaration)
  | declaration (declaration : Declaration)
  | typeDefinition (declaration : Declaration)
  | conditional (extent : Extent) (items : List Item)
  | linkage (extent : Extent) (items : List Item)
  | braces (extent : Extent) (items : List Item)
  deriving Repr

def Item.declarations (items : List Item) : List Declaration :=
  items.filterMap fun
    | .declaration d => some d
    | _ => none

end Quadrature.C
