import Quadrature.C.Expression

/-!
Reading declarations, function definitions and type definitions.
-/

namespace Quadrature.C

def dropCallModifier : List Piece → List Piece
  | [] => []
  | p :: rest => if p.isAny Word.callModifiers then rest else p :: rest

def initialValueEnd : List Piece → Option (List Piece)
  | [] => none
  | p :: rest => if p.isCurly Curly.initializer then some rest else expressionEnd (p :: rest)

/-- A declarator with an initial value or an assembler name. Only with an initial value may words
follow its parameters. -/
def initDeclarator (ps : List Piece) : Option (Ranked (Declarator × List Piece)) :=
  match declaratorReading false Word.modifiers false (dropCallModifier ps) with
  | none => none
  | some ⟨rank, d, trailing, []⟩ => if trailing then none else some ⟨rank, d, []⟩
  | some ⟨rank, d, trailing, p :: rest⟩ =>
    if p.isMark "=" then (initialValueEnd rest).map fun rest' => ⟨rank, .initialised d, rest'⟩
    else if trailing then none
    else if p.isAny Word.assembly then
      match dropAssemblyQualifiers rest with
      | q :: rest' => if q.isRound Round.assembly then some ⟨rank, d, rest'⟩ else none
      | [] => none
    else some ⟨rank, d, p :: rest⟩

def initDeclarators : Nat → List Piece → Option (Ranked (List Declarator × Extent × List Piece))
  | 0, _ => none
  | fuel + 1, ps =>
    match initDeclarator ps with
    | some ⟨rank, d, p :: rest⟩ =>
      if p.isMark ";" then some ⟨rank, [d], p.extent, rest⟩
      else if p.isMark "," then
        (initDeclarators fuel rest).map fun r => ⟨rank + r.rank, d :: r.value.1, r.value.2⟩
      else none
    | _ => none

def declarationReading (ps : List Piece) : Option (Ranked (Declaration × List Piece)) :=
  match ps with
  | [] => none
  | p :: _ =>
    Ranked.best <| (specifierReadings ps).filterMap fun s =>
      (initDeclarators s.value.2.length s.value.2).map fun r =>
        ⟨s.rank + r.rank, ⟨p.extent.upTo r.value.2.1, s.value.1, r.value.1⟩, r.value.2.2⟩

def declarationsReading : Nat → List Piece → List Declaration × List Piece
  | 0, ps => ([], ps)
  | fuel + 1, ps =>
    match declarationReading ps with
    | some r =>
      let more := declarationsReading fuel r.value.2
      (r.value.1 :: more.1, more.2)
    | none => ([], ps)

structure DefinitionReach where
  declarator : Declarator
  oldStyle : List Declaration
  bodyExtent : Extent
  body : List Item
  rest : List Piece

def bodyReading (d : Declarator) (old : List Declaration) :
    List Piece → Option DefinitionReach
  | [] => none
  | p :: rest =>
    match p.curly?.bind Curly.items with
    | some items => some ⟨d, old, p.extent, items, rest⟩
    | none => none

/-- The suffixes of an old-style declarator: the last one holds names, and the declarations of the
parameters follow it. -/
def oldStyleSuffixes (d : Declarator) (rank : Int) : List Piece → Option (Ranked DefinitionReach)
  | [] => none
  | p :: rest =>
    match p.token with
    | .round r =>
      let here := r.names.bind fun names =>
        let (old, rest') := declarationsReading rest.length rest
        bodyReading (.function names d) old rest'
      match here, r.parameters with
      | some reach, _ => some ⟨rank, reach⟩
      | none, some ps => oldStyleSuffixes (.function ps.value d) (rank + ps.rank) rest
      | none, none => none
    | .square s =>
      if s.attributeList then oldStyleSuffixes .hidden rank rest
      else match s.size with
        | some sized => oldStyleSuffixes (.array sized d) rank rest
        | none => none
    | _ => none

def oldStyleReading : List Piece → Option (Ranked DefinitionReach)
  | [] => none
  | p :: rest =>
    match p.token with
    | .lexeme .word =>
      if Word.modifiers.contains p.text then none else oldStyleSuffixes (.name p.text) 0 rest
    | .round r =>
      match r.declarator with
      | some d => oldStyleSuffixes (.parens d.value) (d.rank - 10) rest
      | none => none
    | _ => none

def prototypedReading (ps : List Piece) : Option (Ranked DefinitionReach) :=
  match declaratorReading false Word.modifiers false (dropCallModifier ps) with
  | some r =>
    (bodyReading r.value.declarator [] r.value.rest).map fun reach => ⟨r.rank, reach⟩
  | none => none

def definitionReadings (allowOldStyle : Bool) (ps : List Piece) :
    List (Ranked (Item × List Piece)) :=
  match ps with
  | [] => []
  | p :: _ =>
    (specifierReadings (dropCallModifier ps)).flatMap fun s =>
      let readings := (if allowOldStyle then (oldStyleReading s.value.2).toList else []) ++
        (prototypedReading s.value.2).toList
      readings.map fun r =>
        ⟨s.rank + r.rank,
          .definition (p.extent.upTo r.value.bodyExtent) s.value.1 r.value.declarator
            r.value.oldStyle r.value.bodyExtent (Item.declarations r.value.body),
          r.value.rest⟩

def declaredReading (allowOldStyle : Bool) (ps : List Piece) :
    Option (Ranked (Item × List Piece)) :=
  Ranked.best <| definitionReadings allowOldStyle ps ++
    (declarationReading ps).toList.map fun r => ⟨r.rank, .declaration r.value.1, r.value.2⟩

def definedNames : Nat → List Piece → Option (Ranked (List Declarator × Extent × List Piece))
  | 0, _ => none
  | fuel + 1, ps =>
    match declaratorReading true (Word.qualifiers ++ Word.alignments ++ Word.attributes) false ps with
    | some ⟨rank, d, _, rest⟩ =>
      match dropAttributes rest.length rest with
      | p :: rest' =>
        if p.isMark ";" then some ⟨rank, [d], p.extent, rest'⟩
        else if p.isMark "," && rest'.length + 1 = rest.length then
          (definedNames fuel rest').map fun r => ⟨rank + r.rank, d :: r.value.1, r.value.2⟩
        else none
      | [] => none
    | none => none

def typeDefinitionReading (start : Extent) (ps : List Piece) :
    Option (Ranked (Declaration × List Piece)) :=
  Ranked.best <| (definedTypeReadings ps).filterMap fun s =>
    (definedNames s.value.2.length s.value.2).map fun r =>
      ⟨s.rank + r.rank, ⟨start.upTo r.value.2.1, s.value.1, r.value.1⟩, r.value.2.2⟩

def emptyDeclarationEnd (ps : List Piece) : Option (List Piece) :=
  (typeReadings false ps).findSome? fun r =>
    match r.value.2 with
    | p :: rest => if p.isMark ";" then some rest else none
    | [] => none

end Quadrature.C
