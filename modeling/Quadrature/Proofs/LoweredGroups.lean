import Quadrature.Proofs.LoweredItems

/-! Groups of pieces that were moved down. -/

namespace Quadrature.C

variable {n k : Nat} {p : Piece} {ps : List Piece}

lemma toOption_map {ε α β : Type} (f : α → β) (x : Except ε α) : (x.map f).toOption = x.toOption.map f := by
  cases x <;> rfl

lemma toOption_itemsReading_lower (top : Bool) (k : Nat) (ps : List Piece) :
    (itemsReading top k (lowerOnto n [] ps)).toOption = (itemsReading top k ps).toOption.map (lowerItems n) := by
  induction k generalizing ps with
  | zero => cases ps <;> rfl
  | succ k ih =>
    cases ps with
    | nil => rfl
    | cons p ps =>
      have hi : itemReading top (lowerOnto n [] (p :: ps)) =
          (itemReading top (p :: ps)).map (ItemReach.lowerOnto n []) := itemReading_lowerOnto .nil (.inl rfl)
      rw [lowerOnto_cons] at hi
      rw [lowerOnto_cons, itemsReading, hi, itemsReading]
      cases itemReading top (p :: ps) with
      | none => rfl
      | some r =>
        simp only [Option.map_some, ItemReach.lowerOnto, toOption_map, ih, Option.map_map]
        congr 1
        funext items
        exact (lowerItems_append r.1 items).symm

lemma blockItems_lower (ps : List Piece) : blockItems (lowerOnto n [] ps) = (blockItems ps).map (lowerItems n) := by
  rw [blockItems, length_lowerOnto, toOption_itemsReading_lower]
  rfl

/-! ## Parentheses -/

lemma argumentsEnd_lower (k : Nat) (ps : List Piece) :
    argumentsEnd k (lowerOnto n [] ps) = argumentsEnd k ps := by
  induction k generalizing ps with
  | zero => rfl
  | succ k ih =>
    have he := expressionEnd_lowerOnto (n := n) .nil ps
    cases ps with
    | nil => rfl
    | cons p ps =>
      rw [lowerOnto_cons] at he
      have hif : (if p.isCurly (·.items.isSome) = true then some (lowerOnto n [] ps)
            else (expressionEnd (p :: ps)).map (lowerOnto n [])) =
          (if p.isCurly (·.items.isSome) = true then some ps else expressionEnd (p :: ps)).map (lowerOnto n []) := by
        split_ifs <;> rfl
      simp only [lowerOnto_cons, argumentsEnd, Piece.isCurly_items_lower, he, hif]
      generalize (if p.isCurly (·.items.isSome) = true then some ps else expressionEnd (p :: ps)) = o
      rcases o with _ | _ | ⟨q, rest⟩
      · rfl
      · rfl
      · simp [ih]

lemma isArguments_lower (ps : List Piece) : isArguments (lowerOnto n [] ps) = isArguments ps := by
  simp [isArguments, argumentsEnd_lower]

lemma any_isEmpty_lower (o : Option (List Piece)) : (o.map (lowerOnto n [])).any List.isEmpty = o.any List.isEmpty := by
  cases o <;> simp

lemma isEnclosedExpression_lower (ps : List Piece) :
    isEnclosedExpression (lowerOnto n [] ps) = isEnclosedExpression ps := by
  have he := expressionsEnd_lowerOnto (n := n) .nil typeStarts ps
  match ps with
  | [] => rfl
  | [p] =>
    simp only [lowerOnto_cons, lowerOnto_nil] at he
    simp only [lowerOnto_cons, lowerOnto_nil, isEnclosedExpression, he, any_isEmpty_lower, Piece.isCurly_items_lower]
  | p :: q :: ps =>
    simp only [lowerOnto_cons] at he
    simp only [lowerOnto_cons, isEnclosedExpression, he, any_isEmpty_lower]

lemma typeNameRank_lower (ps : List Piece) : typeNameRank (lowerOnto n [] ps) = typeNameRank ps := by
  have hf : (fun r : Ranked (List Piece) => (r.map (lowerOnto n [])).value.isEmpty) = fun r => r.value.isEmpty := by
    funext r
    simp [Ranked.map]
  rw [typeNameRank, typeNameReadings_lowerOnto .nil, List.filter_map, Function.comp_def, hf, Ranked.best_map,
    Option.map_map, typeNameRank]
  rfl

lemma clauseEnd_lower (ps : List Piece) : clauseEnd (lowerOnto n [] ps) = (clauseEnd ps).map (lowerOnto n []) := by
  rw [clauseEnd, afterMark_lowerOnto .nil, expressionsEnd_lowerOnto .nil,
    bind_lowerOnto fun qs _ => afterMark_lowerOnto .nil ";" qs, ← Option.map_or, clauseEnd]

lemma isLoopHead_lower (ps : List Piece) : isLoopHead (lowerOnto n [] ps) = isLoopHead ps := by
  have hfirst : ((declarationReading (lowerOnto n [] ps)).map (·.value.2)).or (clauseEnd (lowerOnto n [] ps)) =
      (((declarationReading ps).map (·.value.2)).or (clauseEnd ps)).map (lowerOnto n []) := by
    rw [declarationReading_lowerOnto .nil, clauseEnd_lower, Option.map_or, Option.map_map, Option.map_map]
    rfl
  have hrest : ∀ rest, (List.isEmpty (lowerOnto n [] rest) || (expressionsEnd [] (lowerOnto n [] rest)).any List.isEmpty) =
      (rest.isEmpty || (expressionsEnd [] rest).any List.isEmpty) := by
    intro rest
    rw [expressionsEnd_lowerOnto .nil, any_isEmpty_lower, isEmpty_lowerOnto_nil]
  rw [isLoopHead, hfirst, bind_lowerOnto fun qs _ => clauseEnd_lower qs, isLoopHead, Option.any_map]
  simp only [hrest]

lemma splitColons_lower (ps : List Piece) :
    splitColons (lowerOnto n [] ps) = (splitColons ps).map (lowerOnto n []) := by
  induction ps with
  | nil => rfl
  | cons p ps ih =>
    simp only [lowerOnto_cons, splitColons, Piece.isMark_lower, ih]
    split_ifs
    · rfl
    · cases splitColons ps <;> rfl

lemma isAssemblyOperand_lower (ps : List Piece) :
    isAssemblyOperand (lowerOnto n [] ps) = isAssemblyOperand ps := by
  match ps with
  | [] => rfl
  | [p] => rfl
  | [p, q] => simp [isAssemblyOperand]
  | [p, q, r] => simp [isAssemblyOperand]
  | p :: q :: r :: s :: ps => rfl

lemma isStrings_lower (ps : List Piece) : isStrings (lowerOnto n [] ps) = isStrings ps := by
  simp [isStrings, lowerOnto, Function.comp_def]

lemma isSection_lower {test : List Piece → Bool} (h : ∀ ps, test (lowerOnto n [] ps) = test ps) (ps : List Piece) :
    isSection test (lowerOnto n [] ps) = isSection test ps := by
  simp [isSection, splitCommas_lower, Function.comp_def, h]

lemma isAssembly_lower (ps : List Piece) : isAssembly (lowerOnto n [] ps) = isAssembly ps := by
  rw [isAssembly, splitColons_lower, isAssembly]
  cases splitColons ps with
  | nil => rfl
  | cons code sections =>
    have hwords : ∀ ps : List Piece, isSection (fun part => part.length == 1 && part.all (·.word?.isSome))
        (lowerOnto n [] ps) = isSection (fun part => part.length == 1 && part.all (·.word?.isSome)) ps := by
      apply isSection_lower
      intro ps
      simp [lowerOnto, Function.comp_def]
    simp only [List.map_cons, List.length_map, isStrings_lower, ← List.map_take, ← List.map_drop, List.all_map,
      Function.comp_def, isSection_lower isAssemblyOperand_lower, isSection_lower isStrings_lower, hwords]

lemma isAlternatives_lower (k : Nat) (ps : List Piece) :
    isAlternatives k (lowerOnto n [] ps) = isAlternatives k ps := by
  induction k generalizing ps with
  | zero => rfl
  | succ k ih =>
    rw [isAlternatives, typeNameReadings_lowerOnto .nil, List.any_map, isAlternatives]
    congr 1
    funext r
    simp only [Function.comp_apply, Ranked.map, afterMark_lowerOnto .nil]
    rw [bind_lowerOnto fun qs _ => expressionEnd_lowerOnto .nil qs]
    cases (afterMark ":" r.value).bind expressionEnd with
    | none => rfl
    | some qs =>
      cases qs with
      | nil => rfl
      | cons q qs => simp [ih]

lemma isSelection_lower (ps : List Piece) : isSelection (lowerOnto n [] ps) = isSelection ps := by
  rw [isSelection, expressionEnd_lowerOnto .nil, bind_lowerOnto fun qs _ => afterMark_lowerOnto .nil "," qs,
    Option.any_map, isSelection]
  simp [isAlternatives_lower]

lemma isMember_lower (ps : List Piece) : isMember (lowerOnto n [] ps) = isMember ps := by
  rw [isMember, typeNameReadings_lowerOnto .nil, List.any_map, isMember]
  congr 1
  funext r
  simp only [Function.comp_apply, Ranked.map]
  rcases r.value with _ | ⟨p, _ | ⟨q, _ | ⟨s, ps⟩⟩⟩
  · rfl
  · rfl
  · simp
  · rfl

lemma isSingleWord_lower (ps : List Piece) : isSingleWord (lowerOnto n [] ps) = isSingleWord ps := by
  match ps with
  | [] => rfl
  | [p] => simp [isSingleWord]
  | p :: q :: ps => rfl

lemma Round.ofPieces_lower (ps : List Piece) : Round.ofPieces (lowerOnto n [] ps) = (Round.ofPieces ps).lower n := by
  simp only [Round.ofPieces, Round.lower, parameterList_lower, nameList_lower, enclosedDeclarator_lower,
    enclosedAbstract_lower, typeNameRank_lower, isEnclosedExpression_lower, isArguments_lower, isSingleWord_lower,
    isExpression_lower, isLoopHead_lower, isAssembly_lower, isSelection_lower, isMember_lower]
  rcases ps with _ | ⟨p, _ | ⟨q, ps⟩⟩
  · rfl
  · simp
  · rfl

/-! ## Square brackets -/

lemma isAttribute_lower (ps : List Piece) : isAttribute (lowerOnto n [] ps) = isAttribute ps := by
  match ps with
  | [] => rfl
  | [p] => simp [isAttribute]
  | [p, q] => simp [isAttribute]
  | [p, q, r] => rfl
  | [p, q, r, s] => simp [isAttribute]
  | [p, q, r, s, u] => simp [isAttribute]
  | p :: q :: r :: s :: u :: v :: ps => rfl

lemma dropWhile_isAny_lower (words : List String) (ps : List Piece) :
    (lowerOnto n [] ps).dropWhile (·.isAny words) = lowerOnto n [] (ps.dropWhile (·.isAny words)) := by
  induction ps with
  | nil => rfl
  | cons p ps ih =>
    simp only [lowerOnto_cons, List.dropWhile_cons, Piece.isAny_lower, ih]
    split_ifs <;> rfl

lemma arraySize_lower (ps : List Piece) : arraySize (lowerOnto n [] ps) = arraySize ps := by
  simp only [arraySize, dropWhile_isAny_lower]
  generalize ps.dropWhile (·.isAny ("static" :: Word.qualifiers)) = qs
  have he := isExpression_lower (n := n) qs
  match qs with
  | [] => rfl
  | [p] =>
    simp only [lowerOnto_cons, lowerOnto_nil] at he
    simp only [lowerOnto_cons, lowerOnto_nil, Piece.isMark_lower, he]
  | p :: q :: ps =>
    simp only [lowerOnto_cons] at he
    simp only [lowerOnto_cons, he]

lemma isRange_lower (ps : List Piece) : isRange (lowerOnto n [] ps) = isRange ps := by
  rw [isRange, expressionEnd_lowerOnto .nil, bind_lowerOnto fun qs _ => afterMark_lowerOnto .nil "..." qs,
    Option.any_map, isRange]
  simp [isExpression_lower]

lemma Square.ofPieces_lower (ps : List Piece) (closing : String) :
    Square.ofPieces (lowerOnto n [] ps) closing = Square.ofPieces ps closing := by
  simp only [Square.ofPieces, arraySize_lower, isExpression_lower, isRange_lower, isSingleWord_lower,
    isEmpty_lowerOnto_nil, splitCommas_lower, List.all_map, Function.comp_def, isAttribute_lower]
  match ps with
  | [] => rfl
  | [p] => simp
  | p :: q :: ps => rfl

/-! ## Braces and branches -/

def widthEnd : List Piece → Option (List Piece)
  | [] => none
  | p :: rest => if p.isMark ":" then expressionEnd rest else some (p :: rest)

lemma widthEnd_lower (ps : List Piece) : widthEnd (lowerOnto n [] ps) = (widthEnd ps).map (lowerOnto n []) := by
  cases ps with
  | nil => rfl
  | cons p rest =>
    simp only [lowerOnto_cons, widthEnd, Piece.isMark_lower, expressionEnd_lowerOnto .nil]
    split_ifs <;> rfl

def fieldGoesOn (more : List Piece → Option (List Piece)) : List Piece → Option (List Piece)
  | [] => none
  | p :: rest => if p.isMark "," then more rest else afterMark ";" (dropAttributes 1 (p :: rest))

lemma fieldGoesOn_lower {more : List Piece → Option (List Piece)}
    (h : ∀ ps, more (lowerOnto n [] ps) = (more ps).map (lowerOnto n [])) (ps : List Piece) :
    fieldGoesOn more (lowerOnto n [] ps) = (fieldGoesOn more ps).map (lowerOnto n []) := by
  cases ps with
  | nil => rfl
  | cons p rest =>
    have hd := dropAttributes_lowerOnto (n := n) .nil 1 (p :: rest)
    rw [lowerOnto_cons] at hd
    simp only [lowerOnto_cons, fieldGoesOn, Piece.isMark_lower, h, hd, afterMark_lowerOnto .nil]
    split_ifs <;> rfl

lemma fieldDeclaratorsEnd_succ (k : Nat) (ps : List Piece) :
    fieldDeclaratorsEnd (k + 1) ps =
      (widthEnd ((declaratorReading false Word.modifiers false ps).elim ps (·.value.rest))).bind
        (fieldGoesOn (fieldDeclaratorsEnd k)) := by
  rw [fieldDeclaratorsEnd]
  cases declaratorReading false Word.modifiers false ps <;> dsimp only [Option.elim]
  case' some r => generalize r.value.rest = ps
  all_goals
    rcases ps with _ | ⟨p, rest⟩
    · rfl
    · dsimp only [widthEnd]
      split_ifs
      · rcases expressionEnd rest with _ | _ | ⟨q, rest'⟩ <;> rfl
      · rfl

lemma fieldDeclaratorsEnd_lower (k : Nat) (ps : List Piece) :
    fieldDeclaratorsEnd k (lowerOnto n [] ps) = (fieldDeclaratorsEnd k ps).map (lowerOnto n []) := by
  induction k generalizing ps with
  | zero => rfl
  | succ k ih =>
    have hnamed : (declaratorReading false Word.modifiers false (lowerOnto n [] ps)).elim (lowerOnto n [] ps)
          (·.value.rest) =
        lowerOnto n [] ((declaratorReading false Word.modifiers false ps).elim ps (·.value.rest)) := by
      rw [declaratorReading_lowerOnto .nil]
      cases declaratorReading false Word.modifiers false ps <;> rfl
    rw [fieldDeclaratorsEnd_succ, fieldDeclaratorsEnd_succ, hnamed, widthEnd_lower]
    exact bind_lowerOnto fun qs _ => fieldGoesOn_lower ih qs

lemma fieldEnd_lower (ps : List Piece) : fieldEnd (lowerOnto n [] ps) = (fieldEnd ps).map (lowerOnto n []) := by
  rw [fieldEnd, specifierReadings_lowerOnto .nil, fieldEnd, List.findSome?_map, List.map_findSome?]
  congr 1
  funext r
  simp only [Function.comp_apply, TypeReading.lowerOnto, Ranked.map, Prod.map_snd, length_lowerOnto,
    fieldDeclaratorsEnd_lower]
  rfl

lemma isFields_lower (k : Nat) (ps : List Piece) : isFields k (lowerOnto n [] ps) = isFields k ps := by
  induction k generalizing ps with
  | zero => cases ps <;> rfl
  | succ k ih =>
    cases ps with
    | nil => rfl
    | cons p ps =>
      have hf := fieldEnd_lower (n := n) (p :: ps)
      rw [lowerOnto_cons] at hf
      have hany : ((fieldEnd (p :: ps)).map (lowerOnto n [])).any (isFields k) = (fieldEnd (p :: ps)).any (isFields k) := by
        cases fieldEnd (p :: ps) <;> simp [ih]
      simp only [lowerOnto_cons, isFields, Piece.token_lower, ih, hf, hany]
      cases p.token <;> rfl

def valueEnd : List Piece → Option (List Piece)
  | [] => some []
  | p :: rest => if p.isMark "=" then expressionEnd rest else some (p :: rest)

lemma valueEnd_lower (ps : List Piece) : valueEnd (lowerOnto n [] ps) = (valueEnd ps).map (lowerOnto n []) := by
  cases ps with
  | nil => rfl
  | cons p rest =>
    simp only [lowerOnto_cons, valueEnd, Piece.isMark_lower, expressionEnd_lowerOnto .nil]
    split_ifs <;> rfl

def enumerationGoesOn (loose : Bool) (more : List Piece → Bool) : List Piece → Bool
  | [] => true
  | p :: rest => if p.isMark "," then more rest else loose && more (p :: rest)

lemma enumerationGoesOn_lower {loose : Bool} {more : List Piece → Bool}
    (h : ∀ ps, more (lowerOnto n [] ps) = more ps) (ps : List Piece) :
    enumerationGoesOn loose more (lowerOnto n [] ps) = enumerationGoesOn loose more ps := by
  cases ps with
  | nil => rfl
  | cons p rest =>
    have hp := h (p :: rest)
    rw [lowerOnto_cons] at hp
    simp only [lowerOnto_cons, enumerationGoesOn, Piece.isMark_lower, h, hp]

lemma isEnumerators_word {loose : Bool} {p : Piece} (hp : p.token = .lexeme .word) (k : Nat) (ps : List Piece) :
    isEnumerators loose (k + 1) (p :: ps) = (valueEnd ps).any (enumerationGoesOn loose (isEnumerators loose k)) := by
  simp only [isEnumerators, hp]
  rcases ps with _ | ⟨q, rest⟩
  · rfl
  · dsimp only [valueEnd]
    split_ifs
    · rcases expressionEnd rest with _ | _ | ⟨r, rest'⟩ <;> rfl
    · rfl

lemma isEnumerators_lower (loose : Bool) (k : Nat) (ps : List Piece) :
    isEnumerators loose k (lowerOnto n [] ps) = isEnumerators loose k ps := by
  induction k generalizing ps with
  | zero => cases ps <;> rfl
  | succ k ih =>
    cases ps with
    | nil => rfl
    | cons p ps =>
      simp only [lowerOnto_cons]
      by_cases hp : p.token = .lexeme .word
      · rw [isEnumerators_word hp, isEnumerators_word (by rw [Piece.token_lower, hp, Token.lower]), valueEnd_lower]
        cases valueEnd ps with
        | none => rfl
        | some qs => exact enumerationGoesOn_lower ih qs
      · simp only [isEnumerators, Piece.token_lower, ih, isEmpty_lowerOnto_nil, afterMark_lowerOnto .nil]
        cases ht : p.token with
        | lexeme sort =>
          cases sort with
          | word => exact absurd ht hp
          | _ => rfl
        | directive => cases afterMark "," ps <;> simp [Token.lower, ih]
        | _ => rfl

lemma dropDesignators_lower (ps : List Piece) :
    dropDesignators (lowerOnto n [] ps) = lowerOnto n [] (dropDesignators ps) := by
  fun_induction dropDesignators ps with
  | case1 => rfl
  | case2 p h => simp_all [dropDesignators]
  | case3 p h => simp_all [dropDesignators]
  | case4 p q rest h ih => simp_all [dropDesignators]
  | case5 p q rest h h' ih => simp_all [dropDesignators]
  | case6 p q rest h h' => simp_all [dropDesignators]

lemma elementEnd_lower (ps : List Piece) : elementEnd (lowerOnto n [] ps) = (elementEnd ps).map (lowerOnto n []) := by
  have hv := initialValueEnd_lowerOnto (n := n) .nil
  simp only [elementEnd, dropDesignators_lower, length_lowerOnto, List.length_nil, Nat.add_zero,
    afterMark_lowerOnto .nil]
  rw [bind_lowerOnto fun qs _ => hv qs]
  by_cases hd : (dropDesignators ps).length < ps.length
  · rw [if_pos hd, if_pos hd]
  · rw [if_neg hd, if_neg hd]
    match ps with
    | [] => exact hv []
    | [p] => exact hv [p]
    | p :: q :: rest =>
      have hpq := hv (p :: q :: rest)
      simp only [lowerOnto_cons] at hpq
      simp only [lowerOnto_cons, Piece.word?_lower, Piece.isMark_lower, hv rest, hpq]
      split_ifs <;> rfl

lemma isInitializer_lower (k : Nat) (ps : List Piece) : isInitializer k (lowerOnto n [] ps) = isInitializer k ps := by
  induction k generalizing ps with
  | zero => cases ps <;> rfl
  | succ k ih =>
    have he := elementEnd_lower (n := n) ps
    cases ps with
    | nil => rfl
    | cons p ps =>
      rw [lowerOnto_cons] at he
      simp only [lowerOnto_cons, isInitializer, he]
      match elementEnd (p :: ps) with
      | none => rfl
      | some [] => rfl
      | some (q :: rest) => simp [ih]

lemma Curly.ofPieces_lower (ps : List Piece) : Curly.ofPieces (lowerOnto n [] ps) = (Curly.ofPieces ps).lower n := by
  simp only [Curly.ofPieces, Curly.lower, blockItems_lower, length_lowerOnto, List.length_nil, Nat.add_zero,
    isFields_lower, isEnumerators_lower, isInitializer_lower]
  rcases ps with _ | ⟨p, _ | ⟨q, ps⟩⟩
  · rfl
  · simp
  · rfl

lemma Branch.ofPieces_lower (ps : List Piece) : Branch.ofPieces (lowerOnto n [] ps) = (Branch.ofPieces ps).lower n := by
  simp only [Branch.ofPieces, Branch.lower, blockItems_lower, length_lowerOnto, List.length_nil, Nat.add_zero,
    isFields_lower, isEnumerators_lower]

end Quadrature.C
