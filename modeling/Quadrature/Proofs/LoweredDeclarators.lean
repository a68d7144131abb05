import Quadrature.Proofs.LoweredTypes

/-! Declarators and parameters read from pieces that were moved down. -/

namespace Quadrature.C

variable {n : Nat} {p : Piece} {t ps : List Piece}

def DeclaratorReach.lowerOnto (n : Nat) (t : List Piece) (r : DeclaratorReach) : DeclaratorReach :=
  ⟨r.declarator.lower n, r.trailing, C.lowerOnto n t r.rest⟩

lemma suffixes_lowerOnto (ht : Quiet t) (defining : Bool) (d : Declarator) (rank : Int) (tail : Tail)
    (trailing : Bool) (ps : List Piece) :
    suffixes defining (d.lower n) rank tail trailing (lowerOnto n t ps) =
      (suffixes defining d rank tail trailing ps).map (Ranked.map (DeclaratorReach.lowerOnto n t)) := by
  induction ps generalizing d rank tail trailing with
  | nil =>
    cases ht with
    | nil => simp only [lowerOnto_nil, suffixes]; split_ifs <;> rfl
    | branch lead text extent b =>
      simp only [lowerOnto_nil, suffixes]
      cases tail <;> simp [Ranked.map, DeclaratorReach.lowerOnto]
  | cons p ps ih =>
    have hhidden := ih .hidden
    have harray := fun sized => ih (.array sized d)
    have hfunction := fun ps => ih (.function ps d)
    simp only [Declarator.lower] at hhidden harray hfunction
    cases hp : p.token with
    | round r =>
      simp only [lowerOnto_cons, suffixes, Piece.isRound_attributeList_lower, Piece.isRound_assembly_lower,
        Piece.isAny_lower, Piece.token_lower, hp, Token.lower, Round.lower, ih]
      cases r.parameters <;> simp only [Option.map_some, Option.map_none, Ranked.map, hfunction] <;>
        split_ifs <;> rfl
    | square s =>
      simp only [lowerOnto_cons, suffixes, Piece.isRound_attributeList_lower, Piece.isRound_assembly_lower,
        Piece.isAny_lower, Piece.token_lower, hp, Token.lower, ih, hhidden]
      cases s.size <;> simp only [harray] <;> split_ifs <;> rfl
    | lexeme sort =>
      simp only [lowerOnto_cons, suffixes, Piece.isRound_attributeList_lower, Piece.isRound_assembly_lower,
        Piece.isAny_lower, Piece.token_lower, hp, Token.lower, ih]
      cases sort <;> dsimp only <;> split_ifs <;> rfl
    | curly c => simp [suffixes, hp, Token.lower, ih]; split_ifs <;> rfl
    | branch b => simp [suffixes, hp, Token.lower, ih]; split_ifs <;> rfl
    | directive => simp [suffixes, hp, Token.lower, ih]; split_ifs <;> rfl

lemma nameDeclarator_lower (defining : Bool) (w : String) :
    (nameDeclarator defining w).lower n = nameDeclarator defining w := by
  rw [nameDeclarator]
  split_ifs <;> rfl

lemma declaratorReading_lowerOnto (ht : Quiet t) (defining : Bool) (reserved : List String) (pointed : Bool)
    (ps : List Piece) :
    declaratorReading defining reserved pointed (lowerOnto n t ps) =
      (declaratorReading defining reserved pointed ps).map (Ranked.map (DeclaratorReach.lowerOnto n t)) := by
  induction ps generalizing reserved pointed with
  | nil => cases ht <;> simp [declaratorReading]
  | cons p ps ih =>
    have hs := suffixes_lowerOnto (n := n) ht defining
    simp only [lowerOnto_cons, declaratorReading, Piece.isMark_lower, Piece.isAny_lower, Piece.token_lower,
      Piece.text_lower, ih]
    by_cases hstar : p.isMark "*" = true
    · rw [if_pos hstar, if_pos hstar]
      cases declaratorReading defining Word.alignments true ps <;> rfl
    rw [if_neg hstar, if_neg hstar]
    by_cases hmodifier : (pointed && p.isAny (Word.qualifiers ++ Word.pointerModifiers)) = true
    · rw [if_pos hmodifier, if_pos hmodifier]
    · rw [if_neg hmodifier, if_neg hmodifier]
      cases p.token with
      | lexeme sort =>
        have hname := hs (nameDeclarator defining p.text)
        rw [nameDeclarator_lower] at hname
        cases sort with
        | word =>
          simp only [Token.lower, hname]
          split_ifs <;> rfl
        | _ => rfl
      | round r =>
        have hparens := fun d : Ranked Declarator => hs (.parens d.value) (d.rank - 10) .bare false ps
        simp only [Token.lower, Round.lower]
        cases defining with
        | false =>
          cases r.declarator with
          | none => rfl
          | some d => exact hparens d
        | true =>
          cases r.typeDeclarator with
          | none => rfl
          | some d => exact hparens d
      | _ => rfl

lemma abstractSuffixes_lowerOnto (ht : Quiet t) (d : Declarator) (rank : Int) (ps : List Piece) :
    abstractSuffixes (d.lower n) rank (lowerOnto n t ps) =
      (abstractSuffixes d rank ps).map (Prod.map (Declarator.lower n) (lowerOnto n t)) := by
  induction ps generalizing d rank with
  | nil => cases ht <;> simp [abstractSuffixes, Ranked.map]
  | cons p ps ih =>
    have harray := fun sized => ih (.array sized d)
    have hfunction := fun ps => ih (.function ps d)
    simp only [Declarator.lower] at harray hfunction
    have hparameters : ((p.lower n).round?).bind Round.parameters =
        (p.round?.bind Round.parameters).map (Ranked.map (Parameters.lower n)) := by
      cases hp : p.round? <;> simp [hp, Round.lower]
    simp only [lowerOnto_cons, abstractSuffixes, hparameters, Piece.square?_lower]
    cases p.round?.bind Round.parameters with
    | some ps => exact hfunction ps.value (rank + ps.rank)
    | none =>
      cases p.square?.bind Square.size with
      | some sized => exact harray sized rank
      | none => rfl

lemma abstractReading_lowerOnto (ht : Quiet t) (pointed : Bool) (ps : List Piece) :
    abstractReading pointed (lowerOnto n t ps) =
      (abstractReading pointed ps).map (Ranked.map (Prod.map (Declarator.lower n) (lowerOnto n t))) := by
  induction ps generalizing pointed with
  | nil => cases ht <;> cases pointed <;> simp [abstractReading, Ranked.map, Declarator.lower]
  | cons p ps ih =>
    have hs := abstractSuffixes_lowerOnto (n := n) ht
    simp only [lowerOnto_cons, abstractReading, Piece.isMark_lower, Piece.isAny_lower, Piece.token_lower, ih]
    have hstop : (if pointed = true then
        some (⟨0, .absent, p.lower n :: lowerOnto n t ps⟩ : Ranked (Declarator × List Piece)) else none) =
        (if pointed = true then some ⟨0, .absent, p :: ps⟩ else none).map
          (Ranked.map (Prod.map (Declarator.lower n) (lowerOnto n t))) := by
      cases pointed <;> rfl
    by_cases hstar : p.isMark "*" = true
    · rw [if_pos hstar, if_pos hstar]
      cases abstractReading true ps <;> rfl
    rw [if_neg hstar, if_neg hstar]
    by_cases hmodifier : (pointed && p.isAny (Word.qualifiers ++ Word.pointerModifiers)) = true
    · rw [if_pos hmodifier, if_pos hmodifier]
    · rw [if_neg hmodifier, if_neg hmodifier]
      cases p.token with
      | round r =>
        simp only [Token.lower, Round.lower]
        cases r.abstractDeclarator with
        | some d => exact congrArg some (hs (.parens d.value) d.rank ps)
        | none =>
          cases r.parameters with
          | some qs => exact congrArg some (hs (.function qs.value .absent) qs.rank ps)
          | none => exact hstop
      | square s =>
        simp only [Token.lower]
        cases s.size with
        | some sized => exact congrArg some (hs (.array sized .absent) 0 ps)
        | none => exact hstop
      | _ => exact hstop

lemma typeNameReadings_lowerOnto (ht : Quiet t) (ps : List Piece) :
    typeNameReadings (lowerOnto n t ps) = (typeNameReadings ps).map (Ranked.map (lowerOnto n t)) := by
  simp only [typeNameReadings, dropQualifiers_lowerOnto ht, typeReadings_lowerOnto ht, List.flatMap_map,
    List.map_flatMap]
  congr 1
  funext r
  simp only [TypeReading.lowerOnto, Ranked.map, Prod.map_snd, dropQualifiers_lowerOnto ht,
    abstractReading_lowerOnto ht]
  cases abstractReading false (dropQualifiers r.value.2) <;> rfl

/-! ## Parameters -/

@[simp] lemma isEmpty_lowerOnto_nil : (lowerOnto n [] ps).isEmpty = ps.isEmpty := by
  cases ps <;> rfl

lemma splitCommas_lower (ps : List Piece) :
    splitCommas (lowerOnto n [] ps) = (splitCommas ps).map (lowerOnto n []) := by
  induction ps with
  | nil => rfl
  | cons p ps ih =>
    simp only [lowerOnto_cons, splitCommas, Piece.isMark_lower, ih]
    split_ifs
    · rfl
    · cases splitCommas ps <;> rfl

lemma extentOf_lower (h : ps ≠ []) : extentOf (lowerOnto n [] ps) = (extentOf ps).lower n := by
  obtain ⟨p, ps, rfl⟩ := List.exists_cons_of_ne_nil h
  simp only [extentOf, lowerOnto_of_nil, List.head?_map, List.getLast?_map, List.head?_cons,
    List.getLast?_eq_getLast_of_ne_nil h, Option.map_some]
  rfl

lemma Ranked.best_map {α β : Type} (f : α → β) (rs : List (Ranked α)) :
    Ranked.best (rs.map (Ranked.map f)) = (Ranked.best rs).map (Ranked.map f) := by
  induction rs with
  | nil => rfl
  | cons r rs ih =>
    rw [List.map_cons, Ranked.best, Ranked.best, ih]
    cases Ranked.best rs with
    | none => rfl
    | some b =>
      simp only [Option.map_some, Ranked.better, Ranked.map]
      split_ifs <;> rfl

lemma parameterDeclarators_lower (ps : List Piece) :
    parameterDeclarators (lowerOnto n [] ps) = (parameterDeclarators ps).map (Ranked.map (Declarator.lower n)) := by
  cases ps with
  | nil => rfl
  | cons p ps =>
    have ha := abstractReading_lowerOnto (n := n) .nil false (p :: ps)
    have hd := declaratorReading_lowerOnto (n := n) .nil false Word.modifiers false (p :: ps)
    simp only [lowerOnto_cons] at ha hd
    simp only [parameterDeclarators, lowerOnto_cons, ha, hd, List.map_append, Option.toList_map, List.filter_map,
      List.map_map, Function.comp_def, Ranked.map, Prod.map_snd, isEmpty_lowerOnto_nil, DeclaratorReach.lowerOnto]
    rfl

lemma parameterReading_lower (ps : List Piece) :
    parameterReading (lowerOnto n [] ps) =
      (parameterReading ps).map (Ranked.map (Prod.map id (Declarator.lower n))) := by
  rw [parameterReading, parameterReading, ← Ranked.best_map, specifierReadings_lowerOnto .nil, List.flatMap_map,
    List.map_flatMap]
  congr 2
  funext r
  simp only [TypeReading.lowerOnto, Ranked.map, Prod.map_snd, parameterDeclarators_lower, List.map_map]
  rfl

lemma isEllipsis_lower (ps : List Piece) : isEllipsis (lowerOnto n [] ps) = isEllipsis ps := by
  match ps with
  | [] => rfl
  | [p] => simp [isEllipsis]
  | p :: q :: rest => rfl

lemma parameterEntries_lower (runs : List (List Piece)) :
    parameterEntries (runs.map (lowerOnto n [])) = (parameterEntries runs).map (Ranked.map (Parameters.lower n)) := by
  induction runs with
  | nil => rfl
  | cons ps runs ih =>
    simp only [List.map_cons, parameterEntries, ih, isEllipsis_lower, parameterReading_lower]
    cases parameterEntries runs with
    | none => rfl
    | some tail =>
      by_cases he : isEllipsis ps = true
      · simp [he, Ranked.map, Parameters.lower]
      · cases hr : parameterReading ps with
        | none => simp [he]
        | some r =>
          have hne : ps ≠ [] := by
            rintro rfl
            cases hr
          simp [he, Ranked.map, Parameters.lower, extentOf_lower hne]

lemma parameterList_lower (ps : List Piece) :
    parameterList (lowerOnto n [] ps) = (parameterList ps).map (Ranked.map (Parameters.lower n)) := by
  cases ps with
  | nil => rfl
  | cons p ps =>
    have h := splitCommas_lower (n := n) (p :: ps)
    rw [lowerOnto_cons] at h
    simp only [lowerOnto_cons, parameterList, h, parameterEntries_lower]

lemma nameEntries_lower (runs : List (List Piece)) :
    nameEntries (runs.map (lowerOnto n [])) = (nameEntries runs).map (Parameters.lower n) := by
  induction runs with
  | nil => rfl
  | cons ps runs ih =>
    simp only [List.map_cons, nameEntries, ih, isEllipsis_lower]
    cases nameEntries runs with
    | none => rfl
    | some tail =>
      by_cases he : isEllipsis ps = true
      · simp [he, Parameters.lower]
      · match ps with
        | [] => rfl
        | [p] =>
          simp only [he, lowerOnto_cons, lowerOnto_nil, Piece.word?_lower, Option.map_some]
          split_ifs <;> simp_all [Parameters.lower]
        | p :: q :: rest => simp [he]

lemma nameList_lower (ps : List Piece) : nameList (lowerOnto n [] ps) = (nameList ps).map (Parameters.lower n) := by
  cases ps with
  | nil => rfl
  | cons p ps =>
    have h := splitCommas_lower (n := n) (p :: ps)
    rw [lowerOnto_cons] at h
    simp only [lowerOnto_cons, nameList, h, nameEntries_lower]

lemma enclosedDeclarator_lower (defining : Bool) (ps : List Piece) :
    enclosedDeclarator defining (lowerOnto n [] ps) =
      (enclosedDeclarator defining ps).map (Ranked.map (Declarator.lower n)) := by
  cases ps with
  | nil => rfl
  | cons p ps =>
    have hif : (if p.isAny Word.callModifiers = true then lowerOnto n [] ps else p.lower n :: lowerOnto n [] ps) =
        lowerOnto n [] (if p.isAny Word.callModifiers = true then ps else p :: ps) := by
      split_ifs <;> rfl
    simp only [enclosedDeclarator, lowerOnto_cons, Piece.isAny_lower, hif, declaratorReading_lowerOnto .nil]
    cases declaratorReading defining (if defining = true then Word.modifiers else Word.modifiers ++ Word.types) false
        (if p.isAny Word.callModifiers = true then ps else p :: ps) with
    | none => rfl
    | some r =>
      obtain ⟨rank, d, trailing, rest⟩ := r
      cases rest with
      | nil => simp only [Option.map_some, Ranked.map, DeclaratorReach.lowerOnto, lowerOnto_nil]; split_ifs <;> rfl
      | cons q rest => rfl

lemma enclosedAbstract_lower (ps : List Piece) :
    enclosedAbstract (lowerOnto n [] ps) = (enclosedAbstract ps).map (Ranked.map (Declarator.lower n)) := by
  cases ps with
  | nil => rfl
  | cons p ps =>
    have hif : (if p.isAny Word.callModifiers = true then lowerOnto n [] ps else p.lower n :: lowerOnto n [] ps) =
        lowerOnto n [] (if p.isAny Word.callModifiers = true then ps else p :: ps) := by
      split_ifs <;> rfl
    simp only [enclosedAbstract, lowerOnto_cons, Piece.isAny_lower, hif, abstractReading_lowerOnto .nil]
    cases abstractReading false (if p.isAny Word.callModifiers = true then ps else p :: ps) with
    | none => rfl
    | some r =>
      obtain ⟨rank, d, rest⟩ := r
      cases rest with
      | nil => simp only [Option.map_some, Ranked.map, Prod.map, lowerOnto_nil]; split_ifs <;> rfl
      | cons q rest => rfl

end Quadrature.C
