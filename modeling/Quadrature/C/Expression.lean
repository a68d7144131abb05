import Quadrature.C.Declarators

/-!
Reading expressions. Only where an expression ends matters, so each function gives the pieces that
follow it; `fuel` bounds the depth of the recursion.
-/

namespace Quadrature.C

def unaryMarks : List String := ["!", "~", "-", "+", "*", "&", "&&", "++", "--"]

def lvalueMarks : List String := ["*", "&", "&&"]

def binaryMarks : List String :=
  ["+", "-", "*", "/", "%", "||", "&&", "|", "^", "&", "==", "!=", ">", ">=", "<=", "<", "<<", ">>"]

def assignmentMarks : List String :=
  ["=", "*=", "/=", "%=", "+=", "-=", "<<=", ">>=", "&=", "^=", "|="]

def Piece.isAnyMark (ms : List String) (p : Piece) : Bool :=
  match p.token with
  | .lexeme .mark => ms.contains p.text
  | _ => false

structure OperandReach where
  assignable : Bool
  rest : List Piece

def postfixes (assignable : Bool) : List Piece → OperandReach
  | [] => ⟨assignable, []⟩
  | [p] =>
    if p.isRound Round.arguments || p.isSquare Square.subscript then ⟨true, []⟩
    else if p.isAnyMark ["++", "--"] then ⟨false, []⟩
    else ⟨assignable, [p]⟩
  | p :: q :: rest =>
    if p.isRound Round.arguments || p.isSquare Square.subscript then postfixes true (q :: rest)
    else if p.isAnyMark ["++", "--"] then postfixes false (q :: rest)
    else if p.isAnyMark [".", "->"] && q.word?.isSome then postfixes true rest
    else ⟨assignable, p :: q :: rest⟩

def dropStrings : List Piece → List Piece
  | [] => []
  | p :: ps => if p.isString || p.word?.isSome then dropStrings ps else p :: ps

def dropAssemblyQualifiers (ps : List Piece) : List Piece :=
  ps.dropWhile (·.isAny Word.assemblyQualifiers)

def wordOperand (w : String) (rest : List Piece) : Option OperandReach :=
  if Word.constants.contains w then some (postfixes false rest)
  else if Word.alignOf.contains w then
    match rest with
    | q :: rest' => if q.isRound (·.typeName.isSome) then some ⟨false, rest'⟩ else none
    | [] => none
  else if w == "offsetof" then
    match rest with
    | q :: rest' => if q.isRound Round.member then some (postfixes false rest') else none
    | [] => none
  else if w == "_Generic" then
    match rest with
    | q :: rest' => if q.isRound Round.selection then some (postfixes false rest') else none
    | [] => none
  else if Word.assembly.contains w then
    match dropAssemblyQualifiers rest with
    | q :: rest' => if q.isRound Round.assembly then some (postfixes false rest') else none
    | [] => none
  else match rest with
    | q :: _ => if q.isString then some (postfixes false (dropStrings rest))
      else some (postfixes true rest)
    | [] => some (postfixes true [])

def typeStarts : List String := Word.types ++ Word.qualifiers ++ Word.alignments

mutual

def operand (reserved : List String) : Nat → List Piece → Option OperandReach
  | 0, _ => none
  | _, [] => none
  | fuel + 1, p :: rest =>
    match p.token with
    | .lexeme .mark =>
      if unaryMarks.contains p.text then
        (operand [] fuel rest).map fun r =>
          ⟨r.assignable || lvalueMarks.contains p.text, r.rest⟩
      else none
    | .lexeme .number => some (postfixes false rest)
    | .lexeme .character => some (postfixes false rest)
    | .lexeme .string =>
      some (postfixes false (dropStrings rest))
    | .lexeme .word =>
      if p.text == "__extension__" then operand [] fuel rest
      else if reserved.contains p.text then none
      else if p.text == Word.sizeOf then
        match operand [] fuel rest with
        | some r => some r
        | none =>
          match rest with
          | q :: rest' => if q.isRound (·.typeName.isSome) then some ⟨false, rest'⟩ else none
          | [] => none
      else wordOperand p.text rest
    | .round r =>
      let parenthesised := if r.expression then some (postfixes true rest) else none
      if r.typeName.isSome then
        match rest with
        | q :: rest' =>
          if q.isCurly Curly.initializer then some (postfixes false rest')
          else (operand [] fuel rest).or parenthesised
        | [] => parenthesised
      else parenthesised
    | _ => none

/-- What may follow an operand in an expression. The first part of the answer tells whether a binary
operation is outermost. -/
def operations (binary assignable : Bool) : Nat → List Piece → Option (Bool × List Piece)
  | 0, _ => none
  | _, [] => some (binary, [])
  | fuel + 1, p :: rest =>
    if p.isAnyMark binaryMarks then
      match operand [] fuel rest with
      | some r => operations true r.assignable fuel r.rest
      | none => none
    else if p.isAnyMark assignmentMarks && assignable then
      (expression [] fuel rest).map fun r => (binary, r.2)
    else if p.isMark "?" then
      match alternatives fuel rest with
      | some (c :: rest') =>
        if c.isMark ":" then (expression [] fuel rest').map fun r => (false, r.2) else none
      | _ => none
    else some (binary, p :: rest)

def alternatives : Nat → List Piece → Option (List Piece)
  | 0, _ => none
  | _, [] => none
  | fuel + 1, p :: rest =>
    if p.isMark ":" then some (p :: rest) else expressions [] fuel (p :: rest)

def expression (reserved : List String) : Nat → List Piece → Option (Bool × List Piece)
  | 0, _ => none
  | fuel + 1, ps =>
    match operand reserved fuel ps with
    | some r => operations false r.assignable fuel r.rest
    | none => none

def expressions (reserved : List String) : Nat → List Piece → Option (List Piece)
  | 0, _ => none
  | fuel + 1, ps =>
    match expression reserved fuel ps with
    | some (_, p :: rest) =>
      if p.isMark "," then expressions [] fuel rest else some (p :: rest)
    | some (_, []) => some []
    | none => none

end

def expressionFuel (ps : List Piece) : Nat := 4 * ps.length + 8

def expressionEnd (ps : List Piece) : Option (List Piece) :=
  (expression [] (expressionFuel ps) ps).map (·.2)

def plainExpressionEnd (ps : List Piece) : Option (List Piece) :=
  match expression [] (expressionFuel ps) ps with
  | some (false, rest) => some rest
  | _ => none

def expressionsEnd (reserved : List String) (ps : List Piece) : Option (List Piece) :=
  expressions reserved (expressionFuel ps) ps

def isExpression (ps : List Piece) : Bool :=
  (expressionEnd ps).any List.isEmpty

end Quadrature.C
