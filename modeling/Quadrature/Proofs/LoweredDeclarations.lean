import Quadrature.Proofs.LoweredExpressions

/-! Declarations, definitions and type definitions read from pieces that were moved down. -/

namespace Quadrature.C

variable {n k m : Nat} {p : Piece} {t ps : List Piece}

lemma dropCallModifier_lowerOnto (ht : Quiet t) (ps : List Piece) :
    dropCallModifier (lowerOnto n t ps) = lowerOnto n t (dropCallModifier ps) := by
  cases ps with
  | nil => cases ht <;> simp [dropCallModifier]
  | cons p ps =>
    simp only [lowerOnto_cons, dropCallModifier, Piece.isAny_lower]
    split_ifs <;> rfl

lemma initialValueEnd_lowerOnto (ht : Quiet t) (ps : List Piece) :
    initialValueEnd (lowerOnto n t ps) = (initialValueEnd ps).map (lowerOnto n t) := by
  have he := expressionEnd_lowerOnto (n := n) ht ps
  cases ps with
  | nil =>
    have hnil : expressionEnd [] = none := by simp [expressionEnd, expression_nil]
    rw [hnil] at he
    cases ht with
    | nil => rfl
    | branch lead text extent b => simpa [initialValueEnd] using he
  | cons p ps =>
    rw [lowerOnto_cons] at he
    simp only [lowerOnto_cons, initialValueEnd, Piece.isCurly_initializer_lower, he]
    split_ifs <;> rfl

lemma initDeclarator_lowerOnto (ht : Quiet t) (ps : List Piece) :
    initDeclarator (lowerOnto n t ps) =
      (initDeclarator ps).map (Ranked.map (Prod.map (Declarator.lower n) (lowerOnto n t))) := by
  rw [initDeclarator, dropCallModifier_lowerOnto ht, declaratorReading_lowerOnto ht, initDeclarator]
  cases declaratorReading false Word.modifiers false (dropCallModifier ps) with
  | none => rfl
  | some r =>
    obtain ⟨rank, d, trailing, rest⟩ := r
    cases rest with
    | nil => cases ht <;> cases trailing <;> simp [Ranked.map, DeclaratorReach.lowerOnto]
    | cons p rest =>
      simp only [Option.map_some, Ranked.map, DeclaratorReach.lowerOnto, lowerOnto_cons, Piece.isMark_lower,
        Piece.isAny_lower, initialValueEnd_lowerOnto ht, dropAssemblyQualifiers_lowerOnto ht]
      split_ifs
      · cases initialValueEnd rest <;> rfl
      · rfl
      · cases dropAssemblyQualifiers rest with
        | nil => cases ht <;> rfl
        | cons q rest =>
          simp only [lowerOnto_cons, Piece.isRound_assembly_lower]
          split_ifs <;> rfl
      · rfl

def lowerDeclarators (n : Nat) (t : List Piece) (r : List Declarator × Extent × List Piece) :
    List Declarator × Extent × List Piece :=
  (r.1.map (Declarator.lower n), r.2.1.lower n, lowerOnto n t r.2.2)

lemma initDeclarators_quiet (ht : Quiet t) (k : Nat) : initDeclarators k t = none := by
  have h : initDeclarator t = none := initDeclarator_lowerOnto (n := 0) ht []
  cases k <;> simp [initDeclarators, h]

lemma initDeclarators_lowerOnto (ht : Quiet t) (hk : ps.length ≤ k) (hm : ps.length ≤ m) :
    initDeclarators m (lowerOnto n t ps) = (initDeclarators k ps).map (Ranked.map (lowerDeclarators n t)) := by
  induction k generalizing m ps with
  | zero =>
    obtain rfl := List.length_eq_zero_iff.mp (Nat.le_zero.mp hk)
    exact initDeclarators_quiet ht m
  | succ k ih =>
    cases m with
    | zero =>
      obtain rfl := List.length_eq_zero_iff.mp (Nat.le_zero.mp hm)
      rw [initDeclarators_quiet .nil]
      rfl
    | succ m =>
      simp only [initDeclarators, initDeclarator_lowerOnto ht]
      cases hi : initDeclarator ps with
      | none => rfl
      | some r =>
        obtain ⟨rank, d, rest⟩ := r
        have hr := (initDeclarator_suffix hi).length_le
        cases rest with
        | nil => cases ht <;> simp [Ranked.map]
        | cons p rest =>
          simp only [List.length_cons] at hr
          simp only [Option.map_some, Ranked.map, Prod.map, lowerOnto_cons, Piece.isMark_lower,
            ih (by omega : rest.length ≤ k) (by omega : rest.length ≤ m)]
          split_ifs
          · rfl
          · cases initDeclarators k rest <;> rfl
          · rfl

lemma declarationReading_lowerOnto (ht : Quiet t) (ps : List Piece) :
    declarationReading (lowerOnto n t ps) =
      (declarationReading ps).map (Ranked.map (Prod.map (Declaration.lower n) (lowerOnto n t))) := by
  have hs := specifierReadings_lowerOnto (n := n) ht ps
  cases ps with
  | nil =>
    cases ht with
    | nil => rfl
    | branch lead text extent b =>
      simp [declarationReading, specifierReadings, dropModifiers, typeReadings, Ranked.best]
  | cons p ps =>
    rw [lowerOnto_cons] at hs
    rw [lowerOnto_cons, declarationReading, hs, declarationReading, ← Ranked.best_map, List.filterMap_map,
      List.map_filterMap]
    congr 2
    funext r
    have hi : initDeclarators (lowerOnto n t r.value.2).length (lowerOnto n t r.value.2) =
        (initDeclarators r.value.2.length r.value.2).map (Ranked.map (lowerDeclarators n t)) :=
      initDeclarators_lowerOnto ht (Nat.le_refl _) (by simp)
    simp only [Function.comp_apply, TypeReading.lowerOnto, Ranked.map, Prod.map_snd, hi, Option.map_map]
    cases initDeclarators r.value.2.length r.value.2 <;> rfl

lemma declarationsReading_lowerOnto (ht : Quiet t) (hk : ps.length ≤ k) (hm : ps.length ≤ m) :
    declarationsReading m (lowerOnto n t ps) =
      Prod.map (List.map (Declaration.lower n)) (lowerOnto n t) (declarationsReading k ps) := by
  have hquiet : declarationReading t = none := declarationReading_lowerOnto (n := 0) ht []
  induction k generalizing m ps with
  | zero =>
    obtain rfl := List.length_eq_zero_iff.mp (Nat.le_zero.mp hk)
    cases m <;> simp [declarationsReading, hquiet]
  | succ k ih =>
    cases m with
    | zero =>
      obtain rfl := List.length_eq_zero_iff.mp (Nat.le_zero.mp hm)
      simp [declarationsReading, declarationReading]
    | succ m =>
      rw [declarationsReading, declarationReading_lowerOnto ht, declarationsReading]
      cases hd : declarationReading ps with
      | none => rfl
      | some r =>
        have hr := declarationReading_lt hd
        simp only [Option.map_some, Ranked.map, Prod.map,
          ih (by omega : r.value.2.length ≤ k) (by omega : r.value.2.length ≤ m)]
        rfl

def DefinitionReach.lowerOnto (n : Nat) (t : List Piece) (r : DefinitionReach) : DefinitionReach :=
  ⟨r.declarator.lower n, r.oldStyle.map (Declaration.lower n), r.bodyExtent.lower n, lowerItems n r.body,
    C.lowerOnto n t r.rest⟩

lemma bodyReading_lowerOnto (ht : Quiet t) (d : Declarator) (old : List Declaration) (ps : List Piece) :
    bodyReading (d.lower n) (old.map (Declaration.lower n)) (lowerOnto n t ps) =
      (bodyReading d old ps).map (DefinitionReach.lowerOnto n t) := by
  cases ps with
  | nil => cases ht <;> simp [bodyReading]
  | cons p ps =>
    have hitems : ((p.lower n).curly?).bind Curly.items = (p.curly?.bind Curly.items).map (lowerItems n) := by
      cases hp : p.curly? <;> simp [hp, Curly.lower]
    simp only [lowerOnto_cons, bodyReading, hitems]
    cases p.curly?.bind Curly.items <;> rfl

lemma oldStyleSuffixes_lowerOnto (ht : Quiet t) (d : Declarator) (rank : Int) (ps : List Piece) :
    oldStyleSuffixes (d.lower n) rank (lowerOnto n t ps) =
      (oldStyleSuffixes d rank ps).map (Ranked.map (DefinitionReach.lowerOnto n t)) := by
  induction ps generalizing d rank with
  | nil => cases ht <;> simp [oldStyleSuffixes]
  | cons p ps ih =>
    have hhidden := ih .hidden
    have harray := fun sized => ih (.array sized d)
    have hfunction := fun ps => ih (.function ps d)
    simp only [Declarator.lower] at hhidden harray hfunction
    simp only [lowerOnto_cons, oldStyleSuffixes, Piece.token_lower]
    cases p.token with
    | round r =>
      have hbody : ∀ names : Parameters,
          bodyReading (.function (names.lower n) (d.lower n))
            (declarationsReading (lowerOnto n t ps).length (lowerOnto n t ps)).1
            (declarationsReading (lowerOnto n t ps).length (lowerOnto n t ps)).2 =
          (bodyReading (.function names d) (declarationsReading ps.length ps).1
            (declarationsReading ps.length ps).2).map (DefinitionReach.lowerOnto n t) := by
        intro names
        rw [declarationsReading_lowerOnto ht (Nat.le_refl ps.length) (by simp)]
        exact bodyReading_lowerOnto ht (.function names d) _ _
      simp only [Token.lower, Round.lower]
      cases r.names with
      | none => cases r.parameters <;> simp [Ranked.map, hfunction]
      | some names =>
        simp only [Option.map_some, Option.bind_some, hbody]
        cases bodyReading (.function names d) (declarationsReading ps.length ps).1
          (declarationsReading ps.length ps).2 with
        | some reach => rfl
        | none => cases r.parameters <;> simp [Ranked.map, hfunction]
    | square s =>
      simp only [Token.lower, hhidden]
      cases s.size <;> simp only [harray] <;> split_ifs <;> rfl
    | _ => rfl

lemma oldStyleReading_lowerOnto (ht : Quiet t) (ps : List Piece) :
    oldStyleReading (lowerOnto n t ps) =
      (oldStyleReading ps).map (Ranked.map (DefinitionReach.lowerOnto n t)) := by
  have hs := oldStyleSuffixes_lowerOnto (n := n) ht
  cases ps with
  | nil => cases ht <;> simp [oldStyleReading]
  | cons p ps =>
    simp only [lowerOnto_cons, oldStyleReading, Piece.token_lower, Piece.text_lower]
    cases p.token with
    | lexeme sort =>
      cases sort with
      | word =>
        have hname := hs (.name p.text) 0 ps
        simp only [Declarator.lower] at hname
        simp only [Token.lower, hname]
        split_ifs <;> rfl
      | _ => rfl
    | round r =>
      simp only [Token.lower, Round.lower]
      cases r.declarator with
      | none => rfl
      | some d => exact hs (.parens d.value) (d.rank - 10) ps
    | _ => rfl

lemma prototypedReading_lowerOnto (ht : Quiet t) (ps : List Piece) :
    prototypedReading (lowerOnto n t ps) =
      (prototypedReading ps).map (Ranked.map (DefinitionReach.lowerOnto n t)) := by
  rw [prototypedReading, dropCallModifier_lowerOnto ht, declaratorReading_lowerOnto ht, prototypedReading]
  cases declaratorReading false Word.modifiers false (dropCallModifier ps) with
  | none => rfl
  | some r =>
    have hb := bodyReading_lowerOnto (n := n) ht r.value.declarator [] r.value.rest
    simp only [List.map_nil] at hb
    simp only [Option.map_some, Ranked.map, DeclaratorReach.lowerOnto, hb, Option.map_map]
    rfl

lemma declarations_lower (items : List Item) :
    Item.declarations (lowerItems n items) = (Item.declarations items).map (Declaration.lower n) := by
  induction items with
  | nil => rfl
  | cons i items ih =>
    rw [Item.declarations] at ih
    cases i <;> simp only [lowerItems, Item.lower, Item.declarations, List.filterMap_cons, List.map_cons, ih]

lemma definitionReadings_lowerOnto (ht : Quiet t) (old : Bool) (ps : List Piece) :
    definitionReadings old (lowerOnto n t ps) =
      (definitionReadings old ps).map (Ranked.map (Prod.map (Item.lower n) (lowerOnto n t))) := by
  have hd := dropCallModifier_lowerOnto (n := n) ht ps
  cases ps with
  | nil =>
    cases ht with
    | nil => rfl
    | branch lead text extent b =>
      simp [definitionReadings, dropCallModifier, specifierReadings, dropModifiers, typeReadings]
  | cons p ps =>
    rw [lowerOnto_cons] at hd
    simp only [lowerOnto_cons, definitionReadings, hd, specifierReadings_lowerOnto ht, List.flatMap_map,
      List.map_flatMap]
    congr 1
    funext r
    have hreadings : ((if old = true then (oldStyleReading (lowerOnto n t r.value.2)).toList else []) ++
          (prototypedReading (lowerOnto n t r.value.2)).toList) =
        ((if old = true then (oldStyleReading r.value.2).toList else []) ++
          (prototypedReading r.value.2).toList).map (Ranked.map (DefinitionReach.lowerOnto n t)) := by
      rw [oldStyleReading_lowerOnto ht, prototypedReading_lowerOnto ht, List.map_append, Option.toList_map,
        Option.toList_map]
      split_ifs <;> rfl
    simp only [TypeReading.lowerOnto, Ranked.map, Prod.map_snd] at hreadings ⊢
    rw [hreadings, List.map_map, List.map_map]
    apply List.map_congr_left
    intro reach _
    simp only [Function.comp_apply, Ranked.map, DefinitionReach.lowerOnto, declarations_lower]
    rfl

lemma declaredReading_lowerOnto (ht : Quiet t) (old : Bool) (ps : List Piece) :
    declaredReading old (lowerOnto n t ps) =
      (declaredReading old ps).map (Ranked.map (Prod.map (Item.lower n) (lowerOnto n t))) := by
  rw [declaredReading, definitionReadings_lowerOnto ht, declarationReading_lowerOnto ht, declaredReading,
    ← Ranked.best_map, List.map_append, Option.toList_map, List.map_map, List.map_map]
  rfl

lemma definedNames_quiet (ht : Quiet t) (k : Nat) : definedNames k t = none := by
  cases k <;> cases ht <;> simp [definedNames, declaratorReading]

lemma definedNames_lowerOnto (ht : Quiet t) (hk : ps.length ≤ k) (hm : ps.length ≤ m) :
    definedNames m (lowerOnto n t ps) = (definedNames k ps).map (Ranked.map (lowerDeclarators n t)) := by
  induction k generalizing m ps with
  | zero =>
    obtain rfl := List.length_eq_zero_iff.mp (Nat.le_zero.mp hk)
    exact definedNames_quiet ht m
  | succ k ih =>
    cases m with
    | zero =>
      obtain rfl := List.length_eq_zero_iff.mp (Nat.le_zero.mp hm)
      rw [definedNames_quiet .nil]
      rfl
    | succ m =>
      simp only [definedNames, declaratorReading_lowerOnto ht]
      cases hi : declaratorReading true (Word.qualifiers ++ Word.alignments ++ Word.attributes) false ps with
      | none => rfl
      | some r =>
        obtain ⟨rank, d, trailing, rest⟩ := r
        have hr : rest.length ≤ ps.length := (declaratorReading_suffix hi).length_le
        have ha : dropAttributes (lowerOnto n t rest).length (lowerOnto n t rest) =
            lowerOnto n t (dropAttributes rest.length rest) := by
          rw [dropAttributes_lowerOnto ht, dropAttributes_fuel (by simp) (Nat.le_refl _)]
        simp only [Option.map_some, Ranked.map, DeclaratorReach.lowerOnto, ha]
        have hs := (dropAttributes_suffix rest.length rest).length_le
        cases hdrop : dropAttributes rest.length rest with
        | nil => cases ht <;> simp
        | cons p rest' =>
          rw [hdrop, List.length_cons] at hs
          have hl : (lowerOnto n t rest').length + 1 = (lowerOnto n t rest).length ↔ rest'.length + 1 = rest.length := by
            simp only [length_lowerOnto]
            omega
          simp only [lowerOnto_cons, Piece.isMark_lower, hl,
            ih (by omega : rest'.length ≤ k) (by omega : rest'.length ≤ m)]
          split_ifs
          · rfl
          · cases definedNames k rest' <;> rfl
          · rfl

lemma typeDefinitionReading_lowerOnto (ht : Quiet t) (start : Extent) (ps : List Piece) :
    typeDefinitionReading (start.lower n) (lowerOnto n t ps) =
      (typeDefinitionReading start ps).map (Ranked.map (Prod.map (Declaration.lower n) (lowerOnto n t))) := by
  rw [typeDefinitionReading, definedTypeReadings_lowerOnto ht, typeDefinitionReading, ← Ranked.best_map,
    List.filterMap_map, List.map_filterMap]
  congr 2
  funext r
  have hi : definedNames (lowerOnto n t r.value.2).length (lowerOnto n t r.value.2) =
      (definedNames r.value.2.length r.value.2).map (Ranked.map (lowerDeclarators n t)) :=
    definedNames_lowerOnto ht (Nat.le_refl _) (by simp)
  simp only [Function.comp_apply, TypeReading.lowerOnto, Ranked.map, Prod.map_snd, hi, Option.map_map]
  cases definedNames r.value.2.length r.value.2 <;> rfl

lemma emptyDeclarationEnd_lowerOnto (ht : Quiet t) (ps : List Piece) :
    emptyDeclarationEnd (lowerOnto n t ps) = (emptyDeclarationEnd ps).map (lowerOnto n t) := by
  rw [emptyDeclarationEnd, typeReadings_lowerOnto ht, emptyDeclarationEnd, List.findSome?_map, List.map_findSome?]
  congr 1
  funext r
  simp only [Function.comp_apply, TypeReading.lowerOnto, Ranked.map, Prod.map_snd]
  cases r.value.2 with
  | nil => cases ht <;> simp
  | cons p rest =>
    simp only [lowerOnto_cons, Piece.isMark_lower]
    split_ifs <;> rfl

end Quadrature.C
