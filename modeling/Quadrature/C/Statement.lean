import Quadrature.C.Declarations

/-!
Reading statements and the items of blocks and source units. Statements declare nothing, so
only their ends matter.
-/

namespace Quadrature.C

def afterMark (m : String) : List Piece → Option (List Piece)
  | [] => none
  | p :: rest => if p.isMark m then some rest else none

/-- The end of an expression statement. The words of types and modifiers do not start one. -/
def expressionStatementEnd (plain : Bool) (ps : List Piece) : Option (List Piece) :=
  match ps with
  | [] => none
  | p :: rest =>
    if p.isMark ";" then if plain then none else some rest
    else if p.isAny (Word.types ++ Word.modifiers) && !p.isWord "__extension__" then none
    else ((if plain then plainExpressionEnd ps else expressionsEnd [] ps)).bind (afterMark ";")

def typeDefinitionEnd : List Piece → Option (List Piece)
  | p :: q :: rest =>
    if p.isWord "typedef" then (typeDefinitionReading p.extent (q :: rest)).map (·.value.2)
    else if p.isWord "__extension__" && q.isWord "typedef" then
      (typeDefinitionReading p.extent rest).map (·.value.2)
    else none
  | _ => none

/-- Chooses between a declaration and a statement: the declaration wins when its rank is positive or
there is no statement. -/
def preferred {α : Type} (declared : Option (Ranked α)) (statement : Option α) : Option α :=
  match declared, statement with
  | some d, some s => if 0 < d.rank then some d.value else some s
  | some d, none => some d.value
  | none, s => s

def afterCondition : List Piece → Option (List Piece)
  | [] => none
  | p :: rest => if p.isRound Round.expression then some rest else none

def afterBlock : List Piece → Option (List Piece)
  | [] => none
  | p :: rest => if p.isCurly (·.items.isSome) then some rest else none

section

variable (inner : List Piece → Option (List Piece))

def ifEnd (ps : List Piece) : Option (List Piece) :=
  match (afterCondition ps).bind inner with
  | some (q :: rest) => if q.isWord "else" then inner rest else some (q :: rest)
  | r => r

def doEnd (ps : List Piece) : Option (List Piece) :=
  match inner ps with
  | some (q :: rest) =>
    if q.isWord "while" then (afterCondition rest).bind (afterMark ";") else none
  | _ => none

def forEnd : List Piece → Option (List Piece)
  | q :: rest => if q.isRound Round.loop then inner rest else none
  | [] => none

def wordEnd (p : Piece) (ps : List Piece) : Option (List Piece) :=
  match ps with
  | q :: rest =>
    if q.isMark ":" && Word.isTypeName p.text && !Word.operands.contains p.text then
      preferred ((declarationReading rest).map fun r => ⟨r.rank, r.value.2⟩) (inner rest)
    else expressionStatementEnd false (p :: ps)
  | [] => none

end

def returnEnd (ps : List Piece) : Option (List Piece) :=
  (afterMark ";" ps).or ((expressionsEnd [] ps).bind (afterMark ";"))

def gotoEnd : List Piece → Option (List Piece)
  | q :: rest => if q.word?.isSome then afterMark ";" rest else none
  | [] => none

def tryEnd (ps : List Piece) : Option (List Piece) :=
  match afterBlock ps with
  | some (q :: rest) =>
    if q.isWord "__except" then (afterCondition rest).bind afterBlock
    else if q.isWord "__finally" then afterBlock rest
    else none
  | _ => none

mutual

def statementEnd : Nat → List Piece → Option (List Piece)
  | 0, _ => none
  | _, [] => none
  | fuel + 1, p :: rest =>
    match p.token with
    | .curly c => if c.items.isSome then some rest else none
    | .square s => if s.attributeList then statementEnd fuel rest else none
    | .lexeme .word =>
      match p.text with
      | "if" => ifEnd (statementEnd fuel) rest
      | "switch" => (afterCondition rest).bind afterBlock
      | "while" => (afterCondition rest).bind (statementEnd fuel)
      | "do" => doEnd (statementEnd fuel) rest
      | "for" => forEnd (statementEnd fuel) rest
      | "return" => returnEnd rest
      | "break" | "continue" | "__leave" => afterMark ";" rest
      | "goto" => gotoEnd rest
      | "case" => ((expressionEnd rest).bind (afterMark ":")).map (caseEnd fuel)
      | "default" => (afterMark ":" rest).map (caseEnd fuel)
      | "__try" => tryEnd rest
      | _ => wordEnd (statementEnd fuel) p rest
    | _ => expressionStatementEnd false (p :: rest)

def caseEnd : Nat → List Piece → List Piece
  | 0, ps => ps
  | _, [] => []
  | fuel + 1, p :: rest =>
    if p.isAny ["case", "default"] then p :: rest
    else
      let declared := (declarationReading (p :: rest)).map fun r => ⟨r.rank, r.value.2⟩
      match (typeDefinitionEnd (p :: rest)).or
          (preferred declared (statementEnd fuel (p :: rest))) with
      | some rest' => caseEnd fuel rest'
      | none => p :: rest

end

def statementFuel (ps : List Piece) : Nat := 2 * ps.length + 4

abbrev ItemReach := List Item × List Piece

def linkageReading (start : Extent) : List Piece → Option ItemReach
  | [] => none
  | p :: rest =>
    match p.curly?.bind Curly.items with
    | some items => some ([.linkage (start.upTo p.extent) [.braces p.extent items]], rest)
    | none =>
      (declaredReading false (p :: rest)).map fun r =>
        let extent := match r.value.1 with
          | .definition e _ _ _ _ _ => e
          | .declaration d => d.extent
          | _ => p.extent
        ([.linkage (start.upTo extent) [r.value.1]], r.value.2)

def plainItem (top : Bool) (ps : List Piece) : Option ItemReach :=
  let declared := (declaredReading true ps).map fun r => ⟨r.rank, ([r.value.1], r.value.2)⟩
  let label := match ps with
    | p :: q :: _ =>
      if p.word?.isSome && q.isMark ":" then statementEnd (statementFuel ps) ps else none
    | _ => none
  let statement := (label.or (expressionStatementEnd top ps)).or (emptyDeclarationEnd ps)
  preferred declared (statement.map fun rest => ([], rest))

/-- An item of a block, or of a source unit when `top` is set. At the top there are no empty
statements, and an expression statement is no binary operation. -/
def itemReading (top : Bool) (ps : List Piece) : Option ItemReach :=
  match ps with
  | [] => none
  | p :: rest =>
    let statement := (statementEnd (statementFuel ps) ps).map fun rest' => ([], rest')
    match p.token with
    | .directive => some ([], rest)
    | .branch b => b.items.map fun items => ([.conditional p.extent items], rest)
    | .curly _ => statement
    | .square _ =>
      preferred ((declaredReading true ps).map fun r => ⟨r.rank, ([r.value.1], r.value.2)⟩)
        statement
    | .lexeme .word =>
      match rest with
      | q :: rest' =>
        if p.text == "extern" && q.isString then linkageReading p.extent rest'
        else if p.text == "typedef" then
          (typeDefinitionReading p.extent rest).map fun r =>
            ([.typeDefinition r.value.1], r.value.2)
        else if p.text == "__extension__" && q.isWord "typedef" then
          (typeDefinitionReading p.extent rest').map fun r =>
            ([.typeDefinition r.value.1], r.value.2)
        else if Word.statements.contains p.text then statement
        else if !top && Word.blockStatements.contains p.text then statement
        else if Word.operands.contains p.text then
          (expressionStatementEnd top ps).map fun rest'' => ([], rest'')
        else plainItem top ps
      | [] => none
    | _ => (expressionStatementEnd top ps).map fun rest' => ([], rest')

def itemsReading (top : Bool) : Nat → List Piece → Except Position (List Item)
  | _, [] => .ok []
  | 0, p :: _ => .error p.extent.first
  | fuel + 1, p :: rest =>
    match itemReading top (p :: rest) with
    | some (items, rest') => (itemsReading top fuel rest').map (items ++ ·)
    | none => .error p.extent.first

def blockItems (ps : List Piece) : Option (List Item) :=
  (itemsReading false ps.length ps).toOption

end Quadrature.C
