import Quadrature.C.Statement

/-!
The readings of bracketed groups from the pieces inside them.
-/

namespace Quadrature.C

def argumentsEnd : Nat → List Piece → Bool
  | 0, _ => false
  | fuel + 1, ps =>
    let rest := match ps with
      | p :: rest => if p.isCurly (·.items.isSome) then some rest else expressionEnd ps
      | [] => none
    match rest with
    | some [] => true
    | some (p :: rest') => p.isMark "," && argumentsEnd fuel rest'
    | none => false

def isArguments (ps : List Piece) : Bool :=
  ps.isEmpty || argumentsEnd ps.length ps

def isEnclosedExpression (ps : List Piece) : Bool :=
  (match ps with
    | [p] => p.isCurly (·.items.isSome)
    | _ => false) ||
    (expressionsEnd typeStarts ps).any List.isEmpty

def typeNameRank (ps : List Piece) : Option Int :=
  (Ranked.best ((typeNameReadings ps).filter (·.value.isEmpty))).map Ranked.rank

def clauseEnd (ps : List Piece) : Option (List Piece) :=
  (afterMark ";" ps).or ((expressionsEnd [] ps).bind (afterMark ";"))

def isLoopHead (ps : List Piece) : Bool :=
  let first := ((declarationReading ps).map (·.value.2)).or (clauseEnd ps)
  (first.bind clauseEnd).any fun rest =>
    rest.isEmpty || (expressionsEnd [] rest).any List.isEmpty

def splitColons : List Piece → List (List Piece)
  | [] => [[]]
  | p :: ps =>
    if p.isMark ":" then [] :: splitColons ps
    else match splitColons ps with
      | [] => [[p]]
      | s :: ss => (p :: s) :: ss

def isAssemblyOperand : List Piece → Bool
  | [c, v] => c.isString && v.isRound Round.expression
  | [s, c, v] => s.isSquare Square.word && c.isString && v.isRound Round.expression
  | _ => false

def isStrings (ps : List Piece) : Bool :=
  !ps.isEmpty && ps.any Piece.isString && ps.all fun p => p.isString || p.word?.isSome

def isSection (p : List Piece → Bool) (ps : List Piece) : Bool :=
  ps.isEmpty || (splitCommas ps).all p

def isAssembly (ps : List Piece) : Bool :=
  match splitColons ps with
  | code :: sections =>
    isStrings code && sections.length ≤ 4 &&
      (sections.take 2).all (isSection isAssemblyOperand) &&
      ((sections.drop 2).take 1).all (isSection isStrings) &&
      (sections.drop 3).all (isSection fun part => part.length == 1 && part.all (·.word?.isSome))
  | [] => false

def isAlternatives : Nat → List Piece → Bool
  | 0, _ => false
  | fuel + 1, ps =>
    (typeNameReadings ps).any fun r =>
      match (afterMark ":" r.value).bind expressionEnd with
      | some [] => true
      | some (p :: rest) => p.isMark "," && isAlternatives fuel rest
      | none => false

def isSelection (ps : List Piece) : Bool :=
  ((expressionEnd ps).bind (afterMark ",")).any fun rest => isAlternatives rest.length rest

def isMember (ps : List Piece) : Bool :=
  (typeNameReadings ps).any fun r =>
    match r.value with
    | [c, m] => c.isMark "," && m.word?.isSome
    | _ => false

def isSingleWord : List Piece → Bool
  | [p] => p.word?.isSome
  | _ => false

def Round.ofPieces (ps : List Piece) : Round where
  parameters := parameterList ps
  names := nameList ps
  declarator := enclosedDeclarator false ps
  typeDeclarator := enclosedDeclarator true ps
  abstractDeclarator := enclosedAbstract ps
  typeName := typeNameRank ps
  expression := isEnclosedExpression ps
  arguments := isArguments ps
  attributeList := match ps with
    | [p] => p.isRound Round.arguments
    | _ => false
  word := isSingleWord ps
  alignment := isExpression ps || (typeNameRank ps).isSome
  loop := isLoopHead ps
  assembly := isAssembly ps
  selection := isSelection ps
  member := isMember ps

def isAttribute : List Piece → Bool
  | [n] => n.word?.isSome
  | [n, a] => n.word?.isSome && a.isRound Round.arguments
  | [q, c, d, n] => q.word?.isSome && c.isMark ":" && d.isMark ":" && n.word?.isSome
  | [q, c, d, n, a] =>
    q.word?.isSome && c.isMark ":" && d.isMark ":" && n.word?.isSome && a.isRound Round.arguments
  | _ => false

def arraySize (ps : List Piece) : Option Bool :=
  match ps.dropWhile (·.isAny ("static" :: Word.qualifiers)) with
  | [] => some false
  | [p] => if p.isMark "*" || isExpression [p] then some true else none
  | rest => if isExpression rest then some true else none

def isRange (ps : List Piece) : Bool :=
  ((expressionEnd ps).bind (afterMark "...")).any isExpression

def Square.ofPieces (ps : List Piece) (closing : String) : Square where
  size := arraySize ps
  subscript := isExpression ps
  range := isRange ps
  attributeNames := !ps.isEmpty && (splitCommas ps).all isAttribute
  attributeList := match ps with
    | [p] => p.lead == "" && closing == "" && p.isSquare Square.attributeNames
    | _ => false
  word := isSingleWord ps

def fieldDeclaratorsEnd : Nat → List Piece → Option (List Piece)
  | 0, _ => none
  | fuel + 1, ps =>
    let named := match declaratorReading false Word.modifiers false ps with
      | some r => r.value.rest
      | none => ps
    let rest := match named with
      | p :: rest => if p.isMark ":" then expressionEnd rest else some named
      | [] => none
    match rest with
    | some (p :: rest') =>
      if p.isMark "," then fieldDeclaratorsEnd fuel rest'
      else afterMark ";" (dropAttributes 1 (p :: rest'))
    | _ => none

def fieldEnd (ps : List Piece) : Option (List Piece) :=
  (specifierReadings ps).findSome? fun s => fieldDeclaratorsEnd (s.value.2.length + 1) s.value.2

def isFields : Nat → List Piece → Bool
  | _, [] => true
  | 0, _ => false
  | fuel + 1, p :: rest =>
    match p.token with
    | .directive => isFields fuel rest
    | .branch b => b.fields && isFields fuel rest
    | _ => (fieldEnd (p :: rest)).any (isFields fuel)

/-- Whether the pieces are enumerators with commas between them; inside a conditional the commas may
be missing. -/
def isEnumerators (loose : Bool) : Nat → List Piece → Bool
  | _, [] => true
  | 0, _ => false
  | fuel + 1, p :: rest =>
    match p.token with
    | .branch b => b.enumerators && isEnumerators loose fuel rest
    | .directive => rest.isEmpty || (afterMark "," rest).any (isEnumerators loose fuel)
    | .lexeme .word =>
      let valued := match rest with
        | q :: rest' => if q.isMark "=" then expressionEnd rest' else some rest
        | [] => some []
      match valued with
      | some [] => true
      | some (q :: rest') =>
        if q.isMark "," then isEnumerators loose fuel rest'
        else loose && isEnumerators loose fuel (q :: rest')
      | none => false
    | _ => false

def dropDesignators : List Piece → List Piece
  | [] => []
  | [p] => if p.isSquare (fun s => s.subscript || s.range) then [] else [p]
  | p :: q :: rest =>
    if p.isSquare (fun s => s.subscript || s.range) then dropDesignators (q :: rest)
    else if p.isMark "." && q.word?.isSome then dropDesignators rest
    else p :: q :: rest

def elementEnd (ps : List Piece) : Option (List Piece) :=
  let designated := dropDesignators ps
  if designated.length < ps.length then (afterMark "=" designated).bind initialValueEnd
  else match ps with
    | p :: q :: rest =>
      if p.word?.isSome && q.isMark ":" then initialValueEnd rest else initialValueEnd ps
    | _ => initialValueEnd ps

def isInitializer : Nat → List Piece → Bool
  | _, [] => true
  | 0, _ => false
  | fuel + 1, ps =>
    match elementEnd ps with
    | some [] => true
    | some (p :: rest) => p.isMark "," && isInitializer fuel rest
    | none => false

def Curly.ofPieces (ps : List Piece) : Curly where
  items := blockItems ps
  fields := isFields ps.length ps
  enumerators := isEnumerators false ps.length ps
  initializer := (match ps with
    | [p] => p.isMark ","
    | _ => false) || isInitializer ps.length ps

def Branch.ofPieces (ps : List Piece) : Branch where
  items := blockItems ps
  fields := isFields ps.length ps
  enumerators := isEnumerators true ps.length ps

end Quadrature.C
