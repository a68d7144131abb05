import Quadrature.C.Specifiers

/-!
Reading declarators. Pointers stand before what they apply to; parameter lists, array sizes and
attributes stand behind it.
-/

namespace Quadrature.C

inductive Tail where
  | bare | call | more | word | assembly | attributes
  deriving DecidableEq, Repr

structure DeclaratorReach where
  declarator : Declarator
  trailing : Bool
  rest : List Piece

/-- The suffixes of a declarator. Behind a parameter list stand assembler names, attributes and
other words, but not in a type definition. -/
def suffixes (defining : Bool) (d : Declarator) (rank : Int) (tail : Tail) (trailing : Bool) :
    List Piece → Option (Ranked DeclaratorReach)
  | [] =>
    if tail = .assembly ∨ tail = .attributes then none else some ⟨rank, d, trailing, []⟩
  | p :: rest =>
    if tail = .attributes then
      if p.isRound Round.attributeList then suffixes defining d rank .more trailing rest else none
    else if tail = .assembly then
      if p.isRound Round.assembly then suffixes defining d rank .more trailing rest
      else if p.isAny Word.assemblyQualifiers then suffixes defining d rank .assembly trailing rest
      else none
    else match p.token with
      | .round r =>
        if tail = .word then
          if r.arguments then suffixes defining d rank .more trailing rest else none
        else match r.parameters with
          | some ps =>
            suffixes defining (.function ps.value d) (rank + ps.rank)
              (if defining then .bare else .call) false rest
          | none => some ⟨rank, d, trailing, p :: rest⟩
      | .square s =>
        if s.attributeList then suffixes defining .hidden rank .bare false rest
        else match s.size with
          | some sized => suffixes defining (.array sized d) rank .bare false rest
          | none => some ⟨rank, d, trailing, p :: rest⟩
      | .lexeme .word =>
        if tail = .bare then some ⟨rank, d, trailing, p :: rest⟩
        else if p.isAny Word.attributes then suffixes defining d rank .attributes trailing rest
        else if p.isAny Word.assembly then
          if tail = .call then suffixes defining d rank .assembly trailing rest
          else some ⟨rank, d, trailing, p :: rest⟩
        else suffixes defining d rank .word true rest
      | _ => some ⟨rank, d, trailing, p :: rest⟩

/-- The declarator that a word is. The name of a primitive type does not count as a name. -/
def nameDeclarator (defining : Bool) (w : String) : Declarator :=
  if defining && (Word.sizes.contains w || Word.primitives.contains w) then .hidden else .name w

def declaratorReading (defining : Bool) (reserved : List String) (pointed : Bool) :
    List Piece → Option (Ranked DeclaratorReach)
  | [] => none
  | p :: rest =>
    if p.isMark "*" then
      (declaratorReading defining Word.alignments true rest).map fun r =>
        ⟨r.rank + 1, .pointer r.value.declarator, false, r.value.rest⟩
    else if pointed && p.isAny (Word.qualifiers ++ Word.pointerModifiers) then
      declaratorReading defining reserved true rest
    else match p.token with
      | .lexeme .word =>
        if reserved.contains p.text then none
        else suffixes defining (nameDeclarator defining p.text) 0 .bare false rest
      | .round r =>
        match if defining then r.typeDeclarator else r.declarator with
        | some d => suffixes defining (.parens d.value) (d.rank - 10) .bare false rest
        | none => none
      | _ => none

def abstractSuffixes (d : Declarator) (rank : Int) :
    List Piece → Ranked (Declarator × List Piece)
  | [] => ⟨rank, d, []⟩
  | p :: rest =>
    match p.round?.bind Round.parameters, p.square?.bind Square.size with
    | some ps, _ => abstractSuffixes (.function ps.value d) (rank + ps.rank) rest
    | none, some sized => abstractSuffixes (.array sized d) rank rest
    | none, none => ⟨rank, d, p :: rest⟩

def abstractReading (pointed : Bool) : List Piece → Option (Ranked (Declarator × List Piece))
  | [] => if pointed then some ⟨0, .absent, []⟩ else none
  | p :: rest =>
    if p.isMark "*" then
      (abstractReading true rest).map fun r => ⟨r.rank + 1, .pointer r.value.1, r.value.2⟩
    else if pointed && p.isAny (Word.qualifiers ++ Word.pointerModifiers) then
      abstractReading true rest
    else
      let stop := if pointed then some ⟨0, .absent, p :: rest⟩ else none
      match p.token with
      | .round r =>
        match r.abstractDeclarator, r.parameters with
        | some d, _ => some (abstractSuffixes (.parens d.value) d.rank rest)
        | none, some ps => some (abstractSuffixes (.function ps.value .absent) ps.rank rest)
        | none, none => stop
      | .square s =>
        match s.size with
        | some sized => some (abstractSuffixes (.array sized .absent) 0 rest)
        | none => stop
      | _ => stop

def typeNameReadings (ps : List Piece) : List (Ranked (List Piece)) :=
  (typeReadings false (dropQualifiers ps)).flatMap fun r =>
    let rest := dropQualifiers r.value.2
    ⟨r.rank, rest⟩ :: (abstractReading false rest).toList.map fun d =>
      ⟨r.rank + d.rank, d.value.2⟩

def splitCommas : List Piece → List (List Piece)
  | [] => [[]]
  | p :: ps =>
    if p.isMark "," then [] :: splitCommas ps
    else match splitCommas ps with
      | [] => [[p]]
      | s :: ss => (p :: s) :: ss

def extentOf (ps : List Piece) : Extent :=
  match ps.head?, ps.getLast? with
  | some p, some q => p.extent.upTo q.extent
  | _, _ => ⟨0, 0, 0, 0⟩

def parameterDeclarators (ps : List Piece) : List (Ranked Declarator) :=
  match ps with
  | [] => [⟨0, .absent⟩]
  | _ =>
    ((abstractReading false ps).toList.filter fun r => r.value.2.isEmpty).map
        (fun r => ⟨r.rank, r.value.1⟩) ++
      ((declaratorReading false Word.modifiers false ps).toList.filter fun r =>
        r.value.rest.isEmpty).map (fun r => ⟨r.rank, r.value.declarator⟩)

def parameterReading (ps : List Piece) : Option (Ranked (Specifier × Declarator)) :=
  Ranked.best <| (specifierReadings ps).flatMap fun r =>
    (parameterDeclarators r.value.2).map fun d => ⟨r.rank + d.rank, r.value.1, d.value⟩

def isEllipsis : List Piece → Bool
  | [p] => p.isMark "..."
  | _ => false

def parameterEntries : List (List Piece) → Option (Ranked Parameters)
  | [] => some ⟨0, .none⟩
  | ps :: rest =>
    match parameterEntries rest with
    | none => none
    | some tail =>
      if isEllipsis ps then some ⟨tail.rank, .variadic tail.value⟩
      else (parameterReading ps).map fun r =>
        ⟨r.rank + tail.rank, .typed r.value.1 r.value.2 (extentOf ps) tail.value⟩

def parameterList (ps : List Piece) : Option (Ranked Parameters) :=
  match ps with
  | [] => some ⟨0, .none⟩
  | _ => parameterEntries (splitCommas ps)

def nameEntries : List (List Piece) → Option Parameters
  | [] => some .none
  | ps :: rest =>
    match nameEntries rest with
    | none => none
    | some tail =>
      if isEllipsis ps then some (.variadic tail)
      else match ps with
        | [p] =>
          if p.word?.any Word.isTypeName then some (.name p.text p.extent tail) else none
        | _ => none

def nameList (ps : List Piece) : Option Parameters :=
  match ps with
  | [] => some .none
  | _ => nameEntries (splitCommas ps)

/-- A declarator between parentheses. A modifier of the call before it takes the place of its
name. -/
def enclosedDeclarator (defining : Bool) (ps : List Piece) : Option (Ranked Declarator) :=
  let reserved := if defining then Word.modifiers else Word.modifiers ++ Word.types
  match ps with
  | [] => none
  | p :: rest =>
    let modified := p.isAny Word.callModifiers
    match declaratorReading defining reserved false (if modified then rest else ps) with
    | some ⟨rank, d, _, []⟩ => some ⟨rank, if modified then .hidden else d⟩
    | _ => none

def enclosedAbstract (ps : List Piece) : Option (Ranked Declarator) :=
  match ps with
  | [] => none
  | p :: rest =>
    let modified := p.isAny Word.callModifiers
    match abstractReading false (if modified then rest else ps) with
    | some ⟨rank, d, []⟩ => some ⟨rank, if modified then .hidden else d⟩
    | _ => none

end Quadrature.C
