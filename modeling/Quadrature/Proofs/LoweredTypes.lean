import Quadrature.Proofs.Lowered

/-! Modifiers and types read from pieces that were moved down. -/

namespace Quadrature.C

variable {n : Nat} {p : Piece} {t ps : List Piece}

@[simp] lemma isModifier_lower : (p.lower n).isModifier = p.isModifier := by
  simp [Piece.isModifier]

@[simp] lemma isModifierPair_lower (q : Piece) : (p.lower n).isModifierPair (q.lower n) = p.isModifierPair q := by
  simp [Piece.isModifierPair]

@[simp] lemma isBaseName_lower : (p.lower n).isBaseName = p.isBaseName := by
  simp [Piece.isBaseName]

@[simp] lemma isModifier_branch (lead text : String) (extent : Extent) (b : Branch) :
    (⟨lead, text, extent, .branch b⟩ : Piece).isModifier = false := rfl

@[simp] lemma isModifierPair_branch (lead text : String) (extent : Extent) (b : Branch) :
    p.isModifierPair ⟨lead, text, extent, .branch b⟩ = false := by
  simp [Piece.isModifierPair]

lemma dropModifiers_lowerOnto (ht : Quiet t) (ps : List Piece) :
    dropModifiers (lowerOnto n t ps) = lowerOnto n t (dropModifiers ps) := by
  fun_induction dropModifiers ps with
  | case1 => cases ht <;> simp [dropModifiers]
  | case2 p h => cases ht <;> simp [dropModifiers, h]
  | case3 p h => cases ht <;> simp [dropModifiers, h]
  | case4 p q rest h ih => simpa [dropModifiers, h] using ih
  | case5 p q rest h h' ih => simp [dropModifiers, h, h', ih]
  | case6 p q rest h h' => simp [dropModifiers, h, h']

lemma dropQualifiers_lowerOnto (ht : Quiet t) (ps : List Piece) :
    dropQualifiers (lowerOnto n t ps) = lowerOnto n t (dropQualifiers ps) := by
  fun_induction dropQualifiers ps with
  | case1 => cases ht <;> simp [dropQualifiers]
  | case2 p h => cases ht <;> simp [dropQualifiers, h]
  | case3 p h => cases ht <;> simp [dropQualifiers, h]
  | case4 p q rest h ih => simpa [dropQualifiers, h] using ih
  | case5 p q rest h h' ih => simp_all [dropQualifiers]
  | case6 p q rest h h' => simp_all [dropQualifiers]

lemma dropAttributes_lowerOnto (ht : Quiet t) (k : Nat) (ps : List Piece) :
    dropAttributes k (lowerOnto n t ps) = lowerOnto n t (dropAttributes k ps) := by
  induction k generalizing ps with
  | zero => simp [dropAttributes]
  | succ k ih =>
    match ps with
    | [] => cases ht <;> simp [dropAttributes]
    | [p] => cases ht <;> simp [dropAttributes]
    | p :: q :: rest =>
      simp only [lowerOnto_cons, dropAttributes, Piece.isAny_lower, Piece.isRound_attributeList_lower]
      split_ifs
      · exact ih rest
      · rfl

lemma dropAttributes_fuel {k m : Nat} (hk : ps.length ≤ k) (hm : ps.length ≤ m) :
    dropAttributes k ps = dropAttributes m ps := by
  induction k generalizing ps m with
  | zero =>
    obtain rfl := List.length_eq_zero_iff.mp (Nat.le_zero.mp hk)
    cases m <;> rfl
  | succ k ih =>
    match ps, m with
    | [], m => cases m <;> rfl
    | [p], m => cases m <;> rfl
    | p :: q :: rest, m + 1 =>
      simp only [List.length_cons] at hk hm
      simp only [dropAttributes]
      rw [ih (m := m) (by omega) (by omega)]

lemma dropDeclspec_lowerOnto (ht : Quiet t) (ps : List Piece) :
    dropDeclspec (lowerOnto n t ps) = lowerOnto n t (dropDeclspec ps) := by
  match ps with
  | [] => cases ht <;> simp [dropDeclspec]
  | [p] => cases ht <;> simp [dropDeclspec]
  | p :: q :: rest =>
    simp only [lowerOnto_cons, dropDeclspec, Piece.isWord_lower, Piece.isRound_word_lower]
    split_ifs <;> rfl

lemma wordType_lower (taken : List Piece) (sized : Bool) :
    wordType (taken.map (Piece.lower n)) sized = wordType taken sized := by
  match taken with
  | [] => rfl
  | [p] => simp [wordType, Piece.source]
  | p :: q :: rest =>
    have h := Piece.source_lower (n := n) (p :: q :: rest)
    simp only [List.map_cons] at h
    simp only [wordType, List.map_cons, h]

def TypeReading.lowerOnto (n : Nat) (t : List Piece) : TypeReading → TypeReading :=
  Ranked.map (Prod.map id (C.lowerOnto n t))

lemma wordTypes_lowerOnto (ht : Quiet t) (defining : Bool) (taken : List Piece) (hasBase hasSize : Bool)
    (rank : Int) (ps : List Piece) :
    wordTypes defining (taken.map (Piece.lower n)) hasBase hasSize rank (lowerOnto n t ps) =
      (wordTypes defining taken hasBase hasSize rank ps).map (TypeReading.lowerOnto n t) := by
  induction ps generalizing taken hasBase hasSize rank with
  | nil => cases ht <;> simp [wordTypes, wordType_lower, TypeReading.lowerOnto, Ranked.map, Piece.isBaseName]
  | cons p ps ih =>
    have hsnoc : taken.map (Piece.lower n) ++ [p.lower n] = (taken ++ [p]).map (Piece.lower n) := by simp
    simp only [lowerOnto_cons, wordTypes, Piece.isAny_lower, isBaseName_lower, wordType_lower, hsnoc, ih]
    split_ifs <;> simp [TypeReading.lowerOnto, Ranked.map]

lemma taggedRest_lowerOnto (ht : Quiet t) (tag : Tag) {reads : Curly → Bool}
    (hreads : ∀ c, reads (c.lower n) = reads c) (ps : List Piece) :
    taggedRest tag (·.isCurly reads) (lowerOnto n t ps) =
      (taggedRest tag (·.isCurly reads) ps).map (Prod.map id (lowerOnto n t)) := by
  match ps with
  | [] => cases ht <;> simp [taggedRest]
  | [p] =>
    cases hp : p.word? with
    | none => cases ht <;> simp [taggedRest, hp, Piece.isCurly_lower hreads, dropAttributes, apply_ite]
    | some w => cases ht <;> simp [taggedRest, hp, dropAttributes]
  | p :: q :: rest =>
    have hd := dropAttributes_lowerOnto (n := n) ht 1
    cases hp : p.word? with
    | none =>
      have hq := hd (q :: rest)
      rw [lowerOnto_cons] at hq
      simp only [taggedRest, lowerOnto_cons, Piece.word?_lower, hp, Piece.isCurly_lower hreads, hq]
      split_ifs <;> rfl
    | some w =>
      have hq := hd (q :: rest)
      rw [lowerOnto_cons] at hq
      simp only [taggedRest, lowerOnto_cons, Piece.word?_lower, hp, Piece.isCurly_lower hreads, hq, hd rest,
        Piece.curly?_lower, Option.isSome_map]
      split_ifs <;> rfl

lemma enumeration_lowerOnto (ht : Quiet t) (ps : List Piece) :
    enumeration (lowerOnto n t ps) = (enumeration ps).map (Prod.map id (lowerOnto n t)) := by
  have htagged : ∀ ps, taggedRest .enumeration (·.isCurly Curly.enumerators) (lowerOnto n t ps) =
      (taggedRest .enumeration (·.isCurly Curly.enumerators) ps).map (Prod.map id (lowerOnto n t)) :=
    taggedRest_lowerOnto ht .enumeration fun _ => rfl
  match ps with
  | [] => cases ht <;> exact htagged []
  | [p] => cases ht <;> exact htagged [p]
  | [p, q] =>
    cases ht with
    | nil => exact htagged [p, q]
    | branch lead text extent b =>
      have h := htagged [p, q]
      simp only [lowerOnto_cons, lowerOnto_nil] at h ⊢
      rw [enumeration]
      cases hp : p.word? <;> simp [hp, h, enumeration]
  | p :: c :: k :: rest =>
    have h := htagged (p :: c :: k :: rest)
    have hd := dropAttributes_lowerOnto (n := n) ht 1
    simp only [lowerOnto_cons] at h
    cases hp : p.word? with
    | none => simp [enumeration, hp, h]
    | some w =>
      simp only [enumeration, lowerOnto_cons, Piece.word?_lower, hp, Piece.isMark_lower, Piece.isAny_lower, h]
      split_ifs
      · cases rest with
        | nil => cases ht <;> simp [dropAttributes]
        | cons q rest =>
          have hq := hd (q :: rest)
          rw [lowerOnto_cons] at hq
          simp only [lowerOnto_cons, Piece.isCurly_enumerators_lower, hd rest, hq]
          split_ifs <;> rfl
      · rfl

lemma callType_lowerOnto (ht : Quiet t) (p : Piece) (ps : List Piece) :
    callType (p.lower n) (lowerOnto n t ps) = (callType p ps).map (TypeReading.lowerOnto n t) := by
  cases ps with
  | nil => cases ht <;> simp [callType]
  | cons q ps =>
    have hname : ((q.lower n).round?).bind Round.typeName = q.round?.bind Round.typeName := by
      cases hq : q.round? <;> simp [hq, Round.lower]
    have hsource := Piece.source_lower (n := n) [p, q]
    simp only [List.map_cons, List.map_nil] at hsource
    simp only [callType, lowerOnto_cons, hname, hsource]
    split <;> rfl

lemma typeReadings_lowerOnto (ht : Quiet t) (defining : Bool) (ps : List Piece) :
    typeReadings defining (lowerOnto n t ps) = (typeReadings defining ps).map (TypeReading.lowerOnto n t) := by
  cases ps with
  | nil => cases ht <;> simp [typeReadings]
  | cons p ps =>
    have htagged : ∀ tag ps, taggedRest tag (·.isCurly Curly.fields) (lowerOnto n t ps) =
        (taggedRest tag (·.isCurly Curly.fields) ps).map (Prod.map id (lowerOnto n t)) :=
      fun tag => taggedRest_lowerOnto ht tag fun _ => rfl
    have hrank : ∀ o : Option (Specifier × List Piece),
        ((o.map (Prod.map id (lowerOnto n t))).toList.map (⟨0, ·⟩) : List TypeReading) =
          (o.toList.map (⟨0, ·⟩)).map (TypeReading.lowerOnto n t) := by
      intro o
      cases o <;> rfl
    have hwords := wordTypes_lowerOnto (n := n) ht defining [p]
    simp only [List.map_cons, List.map_nil] at hwords
    simp only [typeReadings, lowerOnto_cons, Piece.word?_lower]
    cases p.word? with
    | none => rfl
    | some w =>
      simp only [dropAttributes_lowerOnto ht, dropDeclspec_lowerOnto ht, htagged, enumeration_lowerOnto ht, hrank,
        hwords, callType_lowerOnto ht]
      split_ifs <;> simp

lemma specifierReadings_lowerOnto (ht : Quiet t) (ps : List Piece) :
    specifierReadings (lowerOnto n t ps) = (specifierReadings ps).map (TypeReading.lowerOnto n t) := by
  simp only [specifierReadings, dropModifiers_lowerOnto ht, typeReadings_lowerOnto ht, List.map_map]
  congr 1
  funext r
  simp [TypeReading.lowerOnto, Ranked.map, dropModifiers_lowerOnto ht]

lemma definedTypeReadings_lowerOnto (ht : Quiet t) (ps : List Piece) :
    definedTypeReadings (lowerOnto n t ps) = (definedTypeReadings ps).map (TypeReading.lowerOnto n t) := by
  simp only [definedTypeReadings, dropQualifiers_lowerOnto ht, typeReadings_lowerOnto ht, List.map_map]
  congr 1
  funext r
  simp [TypeReading.lowerOnto, Ranked.map, dropQualifiers_lowerOnto ht]

end Quadrature.C
