import Quadrature.C.Piece

/-!
Reading the specifiers of a declaration: modifiers around exactly one type. Where a word can be read
both as a type and as the name being declared, each reading is given, with its rank.
-/

namespace Quadrature.C

def Piece.isModifier (p : Piece) : Bool :=
  p.isAny (Word.storage ++ Word.qualifiers) || p.isSquare Square.attributeList

def Piece.isModifierPair (p q : Piece) : Bool :=
  (p.isAny Word.attributes && q.isRound Round.attributeList) ||
    (p.isAny Word.alignments && q.isRound Round.alignment) ||
    (p.isWord Word.declspec && q.isRound Round.word)

def dropModifiers : List Piece → List Piece
  | [] => []
  | [p] => if p.isModifier then [] else [p]
  | p :: q :: rest =>
    if p.isModifier then dropModifiers (q :: rest)
    else if p.isModifierPair q then dropModifiers rest
    else p :: q :: rest

def dropQualifiers : List Piece → List Piece
  | [] => []
  | [p] => if p.isAny Word.qualifiers then [] else [p]
  | p :: q :: rest =>
    if p.isAny Word.qualifiers then dropQualifiers (q :: rest)
    else if p.isAny Word.alignments && q.isRound Round.alignment then dropQualifiers rest
    else p :: q :: rest

def dropAttributes : Nat → List Piece → List Piece
  | n + 1, p :: q :: rest =>
    if p.isAny Word.attributes && q.isRound Round.attributeList then dropAttributes n rest
    else p :: q :: rest
  | _, ps => ps

def dropDeclspec : List Piece → List Piece
  | p :: q :: rest =>
    if p.isWord Word.declspec && q.isRound Round.word then rest else p :: q :: rest
  | ps => ps

abbrev TypeReading := Ranked (Specifier × List Piece)

def wordType (taken : List Piece) (sized : Bool) : Specifier :=
  if sized then .sized (Piece.source taken)
  else match taken with
    | [p] => if Word.primitives.contains p.text then .primitive p.text else .named p.text
    | _ => .sized (Piece.source taken)

def Piece.isBaseName (p : Piece) : Bool :=
  p.word?.any fun w => Word.isTypeName w && !Word.callModifiers.contains w

/-- Continues a type of size words and at most one base. In a type definition a size word or a
primitive type may also be the name being defined, so the type may stop before it. -/
def wordTypes (defining : Bool) (taken : List Piece) (hasBase hasSize : Bool) (rank : Int) :
    List Piece → List TypeReading
  | [] => [⟨rank, wordType taken hasSize, []⟩]
  | p :: rest =>
    let stop : TypeReading := ⟨rank, wordType taken hasSize, p :: rest⟩
    if p.isAny Word.sizes then
      (if defining then [stop] else []) ++
        wordTypes defining (taken ++ [p]) hasBase true rank rest
    else if p.isAny Word.primitives && !hasBase then
      (if defining then [stop] else []) ++
        wordTypes defining (taken ++ [p]) true hasSize rank rest
    else if p.isBaseName && !hasBase then
      stop :: wordTypes defining (taken ++ [p]) true hasSize (rank - 1) rest
    else [stop]

def taggedRest (tag : Tag) (isBody : Piece → Bool) : List Piece → Option (Specifier × List Piece)
  | [] => none
  | p :: rest =>
    match p.word? with
    | some name =>
      match rest with
      | q :: rest' =>
        if q.curly?.isSome then
          if isBody q then some (.tagged tag name, dropAttributes 1 rest') else none
        else some (.tagged tag name, dropAttributes 1 (q :: rest'))
      | [] => some (.tagged tag name, [])
    | none => if isBody p then some (.tagged tag "", dropAttributes 1 rest) else none

def enumeration : List Piece → Option (Specifier × List Piece)
  | p :: c :: t :: rest =>
    match p.word? with
    | some name =>
      if c.isMark ":" && t.isAny Word.primitives then
        match rest with
        | q :: rest' =>
          if q.isCurly Curly.enumerators then
            some (.tagged .enumeration name, dropAttributes 1 rest')
          else some (.tagged .enumeration name, dropAttributes 1 (q :: rest'))
        | [] => some (.tagged .enumeration name, [])
      else taggedRest .enumeration (·.isCurly Curly.enumerators) (p :: c :: t :: rest)
    | none => taggedRest .enumeration (·.isCurly Curly.enumerators) (p :: c :: t :: rest)
  | ps => taggedRest .enumeration (·.isCurly Curly.enumerators) ps

def callType (p : Piece) : List Piece → List TypeReading
  | q :: rest =>
    match q.round?.bind Round.typeName with
    | some rank => [⟨rank - 1, .call (Piece.source [p, q]), rest⟩]
    | none => []
  | [] => []

def typeReadings (defining : Bool) : List Piece → List TypeReading
  | [] => []
  | p :: rest =>
    match p.word? with
    | none => []
    | some w =>
      if w == "struct" then
        (taggedRest .struct (·.isCurly Curly.fields)
          (dropDeclspec (dropAttributes 1 rest))).toList.map (⟨0, ·⟩)
      else if w == "union" then
        (taggedRest .union (·.isCurly Curly.fields) (dropDeclspec rest)).toList.map (⟨0, ·⟩)
      else if w == "enum" then (enumeration rest).toList.map (⟨0, ·⟩)
      else if Word.sizes.contains w then wordTypes defining [p] false true 0 rest
      else if Word.primitives.contains w then wordTypes defining [p] true false 0 rest
      else if Word.modifiers.contains w then []
      else wordTypes defining [p] true false 0 rest ++ callType p rest

def specifierReadings (ps : List Piece) : List TypeReading :=
  (typeReadings false (dropModifiers ps)).map fun r =>
    ⟨r.rank, r.value.1, dropModifiers r.value.2⟩

def definedTypeReadings (ps : List Piece) : List TypeReading :=
  (typeReadings true (dropQualifiers ps)).map fun r =>
    ⟨r.rank, r.value.1, dropQualifiers r.value.2⟩

end Quadrature.C
