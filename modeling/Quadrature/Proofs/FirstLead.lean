import Quadrature.Proofs.LoweredItems

/-! The blanks before the first of some pieces play no part in how the pieces are read: only the text of
a type keeps blanks, those between its own words. -/

namespace Quadrature.C

variable {p : Piece} {l : String}

lemma wordType_lead (taken : List Piece) (sized : Bool) :
    wordType ({ p with lead := l } :: taken) sized = wordType (p :: taken) sized := by
  cases taken <;> rfl

lemma wordTypes_lead (defining : Bool) (taken : List Piece) (hasBase hasSize : Bool) (rank : Int) (ps : List Piece) :
    wordTypes defining ({ p with lead := l } :: taken) hasBase hasSize rank ps =
      wordTypes defining (p :: taken) hasBase hasSize rank ps := by
  induction ps generalizing taken hasBase hasSize rank with
  | nil => simp only [wordTypes, wordType_lead]
  | cons q ps ih => simp only [wordTypes, wordType_lead, List.cons_append, ih]

lemma typeReadings_lead (defining : Bool) (ps : List Piece) :
    typeReadings defining ({ p with lead := l } :: ps) = typeReadings defining (p :: ps) := by
  have hw : ∀ b s, wordTypes defining [{ p with lead := l }] b s 0 ps = wordTypes defining [p] b s 0 ps :=
    fun b s => wordTypes_lead defining [] b s 0 ps
  have hc : callType { p with lead := l } ps = callType p ps := by
    cases ps <;> rfl
  have hp : Piece.word? { p with lead := l } = p.word? := rfl
  simp only [typeReadings, hw, hc, hp]

lemma typeReadings_dropModifiers_lead (defining : Bool) (ps : List Piece) :
    typeReadings defining (dropModifiers ({ p with lead := l } :: ps)) =
      typeReadings defining (dropModifiers (p :: ps)) := by
  have hm : Piece.isModifier { p with lead := l } = p.isModifier := rfl
  cases ps with
  | nil =>
    simp only [dropModifiers, hm]
    split_ifs
    · rfl
    · exact typeReadings_lead defining []
  | cons q ps =>
    have hq : Piece.isModifierPair { p with lead := l } q = p.isModifierPair q := rfl
    simp only [dropModifiers, hm, hq]
    split_ifs
    · rfl
    · rfl
    · exact typeReadings_lead defining (q :: ps)

lemma specifierReadings_lead (ps : List Piece) :
    specifierReadings ({ p with lead := l } :: ps) = specifierReadings (p :: ps) := by
  rw [specifierReadings, typeReadings_dropModifiers_lead, specifierReadings]

lemma declarationReading_lead (ps : List Piece) :
    declarationReading ({ p with lead := l } :: ps) = declarationReading (p :: ps) := by
  simp only [declarationReading, specifierReadings_lead]

lemma definitionReadings_lead (allowOldStyle : Bool) (ps : List Piece) :
    definitionReadings allowOldStyle ({ p with lead := l } :: ps) = definitionReadings allowOldStyle (p :: ps) := by
  have hs : specifierReadings (dropCallModifier ({ p with lead := l } :: ps)) =
      specifierReadings (dropCallModifier (p :: ps)) := by
    have hp : Piece.isAny Word.callModifiers { p with lead := l } = p.isAny Word.callModifiers := rfl
    simp only [dropCallModifier, hp]
    split_ifs
    · rfl
    · exact specifierReadings_lead ps
  simp only [definitionReadings, hs]

lemma declaredReading_lead (allowOldStyle : Bool) (ps : List Piece) :
    declaredReading allowOldStyle ({ p with lead := l } :: ps) = declaredReading allowOldStyle (p :: ps) := by
  rw [declaredReading, definitionReadings_lead, declarationReading_lead, declaredReading]

lemma emptyDeclarationEnd_lead (ps : List Piece) :
    emptyDeclarationEnd ({ p with lead := l } :: ps) = emptyDeclarationEnd (p :: ps) := by
  rw [emptyDeclarationEnd, typeReadings_lead, emptyDeclarationEnd]

lemma operand_lead (reserved : List String) (k : Nat) (ps : List Piece) :
    operand reserved k ({ p with lead := l } :: ps) = operand reserved k (p :: ps) := by
  cases k with
  | zero => simp only [operand]
  | succ k => simp only [operand]

lemma expression_lead (reserved : List String) (k : Nat) (ps : List Piece) :
    expression reserved k ({ p with lead := l } :: ps) = expression reserved k (p :: ps) := by
  cases k with
  | zero => simp only [expression]
  | succ k => simp only [expression, operand_lead]

lemma expressions_lead (reserved : List String) (k : Nat) (ps : List Piece) :
    expressions reserved k ({ p with lead := l } :: ps) = expressions reserved k (p :: ps) := by
  cases k with
  | zero => simp only [expressions]
  | succ k => simp only [expressions, expression_lead]

lemma expressionStatementEnd_lead (plain : Bool) (ps : List Piece) :
    expressionStatementEnd plain ({ p with lead := l } :: ps) = expressionStatementEnd plain (p :: ps) := by
  have he : plainExpressionEnd ({ p with lead := l } :: ps) = plainExpressionEnd (p :: ps) := by
    simp only [plainExpressionEnd, expression_lead, expressionFuel, List.length_cons]
  have hs : expressionsEnd [] ({ p with lead := l } :: ps) = expressionsEnd [] (p :: ps) := by
    simp only [expressionsEnd, expressions_lead, expressionFuel, List.length_cons]
  simp only [expressionStatementEnd, he, hs]
  rfl

lemma statementEnd_lead (k : Nat) (ps : List Piece) :
    statementEnd k ({ p with lead := l } :: ps) = statementEnd k (p :: ps) := by
  cases k with
  | zero => simp only [statementEnd]
  | succ k => simp only [statementEnd, wordEnd, expressionStatementEnd_lead]

lemma plainItem_lead (top : Bool) (ps : List Piece) :
    plainItem top ({ p with lead := l } :: ps) = plainItem top (p :: ps) := by
  have hl : labelEnd ({ p with lead := l } :: ps) = labelEnd (p :: ps) := by
    cases ps with
    | nil => rfl
    | cons q ps => simp only [labelEnd, statementEnd_lead]; rfl
  simp only [plainItem_eq, declaredReading_lead, hl, expressionStatementEnd_lead, emptyDeclarationEnd_lead]

lemma itemReading_lead (top : Bool) (ps : List Piece) :
    itemReading top ({ p with lead := l } :: ps) = itemReading top (p :: ps) := by
  cases ps with
  | nil => simp only [itemReading, statementFuel, List.length_cons, statementEnd_lead, declaredReading_lead,
      expressionStatementEnd_lead]
  | cons q ps =>
    simp only [itemReading, statementFuel, List.length_cons, statementEnd_lead, declaredReading_lead,
      expressionStatementEnd_lead, plainItem_lead]

lemma itemsReading_lead (top : Bool) (k : Nat) (ps : List Piece) :
    itemsReading top k ({ p with lead := l } :: ps) = itemsReading top k (p :: ps) := by
  cases k with
  | zero => rfl
  | succ k => simp only [itemsReading, itemReading_lead]

end Quadrature.C
