import Quadrature.C.Tree
import Quadrature.C.Lexeme
import Quadrature.C.Word

/-!
The pieces of a source text: lexemes, directives, and bracketed groups. A group is read when it
closes, in each way that a group of its shape can be read, and is a single piece from then on.
-/

namespace Quadrature.C

/-- A reading with its rank among the readings of the same text; the highest rank wins. -/
structure Ranked (α : Type) where
  rank : Int
  value : α
  deriving Repr

def Ranked.better {α : Type} : Option (Ranked α) → Option (Ranked α) → Option (Ranked α)
  | some a, some b => if a.rank < b.rank then some b else some a
  | some a, none => some a
  | none, b => b

def Ranked.best {α : Type} : List (Ranked α) → Option (Ranked α)
  | [] => none
  | a :: as => Ranked.better (some a) (Ranked.best as)

structure Round where
  parameters : Option (Ranked Parameters)
  names : Option Parameters
  declarator : Option (Ranked Declarator)
  typeDeclarator : Option (Ranked Declarator)
  abstractDeclarator : Option (Ranked Declarator)
  typeName : Option Int
  expression : Bool
  arguments : Bool
  attributeList : Bool
  word : Bool
  alignment : Bool
  loop : Bool
  assembly : Bool
  selection : Bool
  member : Bool
  deriving Repr

structure Square where
  /-- The size of an array: whether one is given. -/
  size : Option Bool
  subscript : Bool
  range : Bool
  attributeNames : Bool
  attributeList : Bool
  word : Bool
  deriving Repr

structure Curly where
  items : Option (List Item)
  fields : Bool
  enumerators : Bool
  initializer : Bool
  deriving Repr

structure Branch where
  items : Option (List Item)
  fields : Bool
  enumerators : Bool
  deriving Repr

inductive Token where
  | lexeme (sort : Lexeme.Class)
  | round (readings : Round)
  | square (readings : Square)
  | curly (readings : Curly)
  | branch (readings : Branch)
  | directive
  deriving Repr

structure Piece where
  lead : String
  text : String
  extent : Extent
  token : Token
  deriving Repr

namespace Piece

def word? (p : Piece) : Option String :=
  match p.token with
  | .lexeme .word => some p.text
  | _ => none

def isWord (w : String) (p : Piece) : Bool :=
  p.word? == some w

def isAny (ws : List String) (p : Piece) : Bool :=
  p.word?.any ws.contains

def isMark (m : String) (p : Piece) : Bool :=
  match p.token with
  | .lexeme .mark => p.text == m
  | _ => false

def isString (p : Piece) : Bool :=
  match p.token with
  | .lexeme .string => true
  | _ => false

def round? (p : Piece) : Option Round :=
  match p.token with
  | .round r => some r
  | _ => none

def square? (p : Piece) : Option Square :=
  match p.token with
  | .square s => some s
  | _ => none

def curly? (p : Piece) : Option Curly :=
  match p.token with
  | .curly c => some c
  | _ => none

def isRound (reads : Round → Bool) (p : Piece) : Bool :=
  p.round?.any reads

def isSquare (reads : Square → Bool) (p : Piece) : Bool :=
  p.square?.any reads

def isCurly (reads : Curly → Bool) (p : Piece) : Bool :=
  p.curly?.any reads

def source : List Piece → String
  | [] => ""
  | p :: ps => p.text ++ String.join (ps.map fun q => q.lead ++ q.text)

end Piece

end Quadrature.C
