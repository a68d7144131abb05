import Quadrature.Proofs.LoweredDeclarators
import Quadrature.Proofs.Readings

/-! Expressions read from pieces that were moved down. -/

namespace Quadrature.C

variable {n k m : Nat} {p : Piece} {t ps : List Piece} {reserved : List String}

def OperandReach.lowerOnto (n : Nat) (t : List Piece) (r : OperandReach) : OperandReach :=
  ⟨r.assignable, C.lowerOnto n t r.rest⟩

lemma postfixes_lowerOnto (ht : Quiet t) (assignable : Bool) (ps : List Piece) :
    postfixes assignable (lowerOnto n t ps) = (postfixes assignable ps).lowerOnto n t := by
  fun_induction postfixes assignable ps with
  | case1 => cases ht <;> simp [postfixes, OperandReach.lowerOnto]
  | case2 assignable p h => cases ht <;> simp_all [postfixes, OperandReach.lowerOnto]
  | case3 assignable p h h' => cases ht <;> simp_all [postfixes, OperandReach.lowerOnto]
  | case4 assignable p h h' => cases ht <;> simp_all [postfixes, OperandReach.lowerOnto]
  | case5 assignable p q rest h ih => simp_all [postfixes]
  | case6 assignable p q rest h h' ih => simp_all [postfixes]
  | case7 assignable p q rest h h' h'' ih => simp_all [postfixes]
  | case8 assignable p q rest h h' h'' => simp_all [postfixes, OperandReach.lowerOnto]

lemma dropStrings_lowerOnto (ht : Quiet t) (ps : List Piece) :
    dropStrings (lowerOnto n t ps) = lowerOnto n t (dropStrings ps) := by
  induction ps with
  | nil => cases ht <;> simp [dropStrings]
  | cons p ps ih =>
    simp only [lowerOnto_cons, dropStrings, Piece.isString_lower, Piece.word?_lower, ih]
    split_ifs <;> rfl

lemma dropAssemblyQualifiers_lowerOnto (ht : Quiet t) (ps : List Piece) :
    dropAssemblyQualifiers (lowerOnto n t ps) = lowerOnto n t (dropAssemblyQualifiers ps) := by
  induction ps with
  | nil => cases ht <;> simp [dropAssemblyQualifiers]
  | cons p ps ih =>
    simp only [dropAssemblyQualifiers] at ih
    simp only [lowerOnto_cons, dropAssemblyQualifiers, List.dropWhile_cons, Piece.isAny_lower, ih]
    split_ifs <;> rfl

lemma afterBracket_lowerOnto (ht : Quiet t) {reads : Piece → Bool} {f g : List Piece → OperandReach}
    (hreads : ∀ p : Piece, reads (p.lower n) = reads p) (hbranch : ∀ l x e b, reads ⟨l, x, e, .branch b⟩ = false)
    (hf : ∀ ps, g (lowerOnto n t ps) = (f ps).lowerOnto n t) (ps : List Piece) :
    (match lowerOnto n t ps with
      | q :: rest => if reads q = true then some (g rest) else none
      | [] => none) =
    (match ps with
      | q :: rest => if reads q = true then some (f rest) else none
      | [] => none).map (OperandReach.lowerOnto n t) := by
  cases ps with
  | nil => cases ht <;> simp [hbranch]
  | cons q ps =>
    simp only [lowerOnto_cons, hreads, hf]
    split_ifs <;> rfl

lemma wordOperand_lowerOnto (ht : Quiet t) (w : String) (ps : List Piece) :
    wordOperand w (lowerOnto n t ps) = (wordOperand w ps).map (OperandReach.lowerOnto n t) := by
  have hp := postfixes_lowerOnto (n := n) ht
  unfold wordOperand
  split_ifs
  · simp [hp]
  · exact afterBracket_lowerOnto ht (fun p => p.isRound_typeName_lower) (fun _ _ _ _ => rfl) (fun _ => rfl) ps
  · exact afterBracket_lowerOnto ht (fun p => p.isRound_member_lower) (fun _ _ _ _ => rfl) (hp false) ps
  · exact afterBracket_lowerOnto ht (fun p => p.isRound_selection_lower) (fun _ _ _ _ => rfl) (hp false) ps
  · rw [dropAssemblyQualifiers_lowerOnto ht]
    exact afterBracket_lowerOnto ht (fun p => p.isRound_assembly_lower) (fun _ _ _ _ => rfl) (hp false) _
  · cases ps with
    | nil => cases ht <;> simp [postfixes, OperandReach.lowerOnto]
    | cons q ps =>
      have hs := dropStrings_lowerOnto (n := n) ht (q :: ps)
      have hq := hp true (q :: ps)
      simp only [lowerOnto_cons] at hs hq
      simp only [lowerOnto_cons, Piece.isString_lower, hs, hp, hq]
      split_ifs <;> rfl

lemma operand_lowerOnto (ht : Quiet t) (hk : 4 * ps.length + 1 ≤ k) (hm : 4 * ps.length + 1 ≤ m) :
    operand reserved m (lowerOnto n t ps) = (operand reserved k ps).map (OperandReach.lowerOnto n t) := by
  induction k generalizing m reserved ps with
  | zero => omega
  | succ k ih =>
    obtain ⟨m, rfl⟩ : ∃ m', m = m' + 1 := ⟨m - 1, by omega⟩
    cases ps with
    | nil => cases ht <;> simp [operand]
    | cons p ps =>
      simp only [List.length_cons] at hk hm
      have hrec : operand [] m (lowerOnto n t ps) = (operand [] k ps).map (OperandReach.lowerOnto n t) :=
        ih (by omega) (by omega)
      have hpost := postfixes_lowerOnto (n := n) ht
      cases hp : p.token with
      | lexeme sort =>
        cases sort with
        | mark =>
          simp only [lowerOnto_cons, operand, Piece.token_lower, hp, Token.lower, Piece.text_lower, hrec]
          split_ifs
          · cases operand [] k ps <;> rfl
          · rfl
        | word =>
          simp only [lowerOnto_cons, operand, Piece.token_lower, hp, Token.lower, Piece.text_lower, hrec,
            wordOperand_lowerOnto ht]
          split_ifs
          · rfl
          · rfl
          · cases operand [] k ps with
            | some r => rfl
            | none =>
              exact afterBracket_lowerOnto ht (fun p => p.isRound_typeName_lower) (fun _ _ _ _ => rfl)
                (fun _ => rfl) ps
          · rfl
        | string => simp [operand, hp, Token.lower, dropStrings_lowerOnto ht, hpost]
        | _ => simp [operand, hp, Token.lower, hpost]
      | round r =>
        have hparens : (if r.expression = true then some (postfixes true (lowerOnto n t ps)) else none) =
            (if r.expression = true then some (postfixes true ps) else none).map (OperandReach.lowerOnto n t) := by
          rw [hpost]
          split_ifs <;> rfl
        simp only [lowerOnto_cons, operand, Piece.token_lower, hp, Token.lower, Round.lower, hparens]
        by_cases hname : r.typeName.isSome = true
        · rw [if_pos hname, if_pos hname]
          cases ps with
          | nil =>
            cases ht with
            | nil => rfl
            | branch lead text extent b =>
              have hnone : operand [] m [⟨lead, text, extent, .branch b⟩] = none := by
                cases m <;> simp [operand]
              simp [hnone]
          | cons q ps =>
            rw [lowerOnto_cons] at hrec
            simp only [lowerOnto_cons, Piece.isCurly_initializer_lower, hpost, hrec]
            by_cases hq : q.isCurly Curly.initializer = true
            · rw [if_pos hq, if_pos hq]
              rfl
            · rw [if_neg hq, if_neg hq]
              exact Option.map_or.symm
        · rw [if_neg hname, if_neg hname]
      | _ => simp [operand, hp, Token.lower]

lemma expression_nil (reserved : List String) (k : Nat) : expression reserved k [] = none := by
  match k with
  | 0 => simp [expression]
  | 1 => simp [expression, operand]
  | k + 2 => simp [expression, operand]

lemma expressions_nil (reserved : List String) (k : Nat) : expressions reserved k [] = none := by
  cases k <;> simp [expressions, expression_nil]

/-- Fuel that suffices gives the same readings, here and further down. -/
structure ExpressionsLower (n : Nat) (t : List Piece) (k : Nat) : Prop where
  operations : ∀ {binary assignable ps m}, 4 * ps.length + 1 ≤ k → 4 * ps.length + 1 ≤ m →
    operations binary assignable m (lowerOnto n t ps) =
      (operations binary assignable k ps).map (Prod.map id (lowerOnto n t))
  alternatives : ∀ {ps m}, 4 * ps.length + 4 ≤ k → 4 * ps.length + 4 ≤ m →
    alternatives m (lowerOnto n t ps) = (alternatives k ps).map (lowerOnto n t)
  expression : ∀ {reserved ps m}, 4 * ps.length + 2 ≤ k → 4 * ps.length + 2 ≤ m →
    expression reserved m (lowerOnto n t ps) = (expression reserved k ps).map (Prod.map id (lowerOnto n t))
  expressions : ∀ reserved {ps m}, 4 * ps.length + 3 ≤ k → 4 * ps.length + 3 ≤ m →
    expressions reserved m (lowerOnto n t ps) = (expressions reserved k ps).map (lowerOnto n t)

lemma ExpressionsLower.step_operations (ht : Quiet t) (h : ExpressionsLower n t k) (binary assignable : Bool)
    (hk : 4 * ps.length + 1 ≤ k + 1) (hm : 4 * ps.length + 1 ≤ m + 1) :
    C.operations binary assignable (m + 1) (lowerOnto n t ps) =
      (C.operations binary assignable (k + 1) ps).map (Prod.map id (lowerOnto n t)) := by
  cases ps with
  | nil => cases ht <;> simp [C.operations]
  | cons p ps =>
    simp only [List.length_cons] at hk hm
    simp only [lowerOnto_cons, C.operations, Piece.isAnyMark_lower, Piece.isMark_lower,
      operand_lowerOnto ht (by omega : 4 * ps.length + 1 ≤ k) (by omega : 4 * ps.length + 1 ≤ m),
      h.expression (by omega : 4 * ps.length + 2 ≤ k) (by omega : 4 * ps.length + 2 ≤ m),
      h.alternatives (by omega : 4 * ps.length + 4 ≤ k) (by omega : 4 * ps.length + 4 ≤ m)]
    split_ifs
    · cases ho : operand [] k ps with
      | none => rfl
      | some r =>
        have hr := (operand_suffix ho).length_le
        exact h.operations (by omega) (by omega)
    · cases C.expression [] k ps <;> rfl
    · cases ha : C.alternatives k ps with
      | none => rfl
      | some rest =>
        have hr := ((expressionsLeaveRests k).alternatives ha).length_le
        cases rest with
        | nil => cases ht <;> rfl
        | cons c rest =>
          simp only [List.length_cons] at hr
          simp only [Option.map_some, lowerOnto_cons, Piece.isMark_lower,
            h.expression (by omega : 4 * rest.length + 2 ≤ k) (by omega : 4 * rest.length + 2 ≤ m)]
          split_ifs
          · cases C.expression [] k rest <;> rfl
          · rfl
    · rfl

lemma expressionsLower (ht : Quiet t) (k : Nat) : ExpressionsLower n t k := by
  induction k with
  | zero => constructor <;> intros <;> omega
  | succ k ih =>
    constructor
    · intro binary assignable ps m hk hm
      obtain ⟨m, rfl⟩ : ∃ m', m = m' + 1 := ⟨m - 1, by omega⟩
      exact ih.step_operations ht binary assignable hk hm
    · intro ps m hk hm
      obtain ⟨m, rfl⟩ : ∃ m', m = m' + 1 := ⟨m - 1, by omega⟩
      cases ps with
      | nil =>
        cases ht with
        | nil => simp [alternatives]
        | branch lead text extent b =>
          have h := ih.expressions [] (Nat.le_of_succ_le_succ hk) (Nat.le_of_succ_le_succ hm)
          rw [expressions_nil, lowerOnto_nil] at h
          simp [alternatives, h]
      | cons p ps =>
        have h : expressions [] m (lowerOnto n t (p :: ps)) = (expressions [] k (p :: ps)).map (lowerOnto n t) :=
          ih.expressions [] (by omega) (by omega)
        rw [lowerOnto_cons] at h
        simp only [lowerOnto_cons, alternatives, Piece.isMark_lower, h]
        split_ifs <;> rfl
    · intro reserved ps m hk hm
      obtain ⟨m, rfl⟩ : ∃ m', m = m' + 1 := ⟨m - 1, by omega⟩
      simp only [expression, operand_lowerOnto ht (by omega : 4 * ps.length + 1 ≤ k) (by omega : 4 * ps.length + 1 ≤ m)]
      cases ho : operand reserved k ps with
      | none => rfl
      | some r =>
        have hr := (operand_suffix ho).length_le
        exact ih.operations (by omega) (by omega)
    · intro reserved ps m hk hm
      obtain ⟨m, rfl⟩ : ∃ m', m = m' + 1 := ⟨m - 1, by omega⟩
      simp only [expressions, ih.expression (by omega : 4 * ps.length + 2 ≤ k) (by omega : 4 * ps.length + 2 ≤ m)]
      cases he : expression reserved k ps with
      | none => rfl
      | some r =>
        obtain ⟨binary, rest⟩ := r
        have hr := ((expressionsLeaveRests k).expression he).length_le
        cases rest with
        | nil => cases ht <;> simp
        | cons q rest =>
          simp only [List.length_cons] at hr
          simp only [Option.map_some, Prod.map, lowerOnto_cons, Piece.isMark_lower,
            ih.expressions [] (by omega : 4 * rest.length + 3 ≤ k) (by omega : 4 * rest.length + 3 ≤ m)]
          split_ifs <;> rfl

lemma expressionFuel_lowerOnto (ps : List Piece) :
    4 * ps.length + 3 ≤ expressionFuel ps ∧ 4 * ps.length + 3 ≤ expressionFuel (lowerOnto n t ps) := by
  simp only [expressionFuel, length_lowerOnto]
  omega

lemma expressionEnd_lowerOnto (ht : Quiet t) (ps : List Piece) :
    expressionEnd (lowerOnto n t ps) = (expressionEnd ps).map (lowerOnto n t) := by
  obtain ⟨hk, hm⟩ := expressionFuel_lowerOnto (n := n) (t := t) ps
  rw [expressionEnd, (expressionsLower ht _).expression (Nat.le_of_succ_le hk) (Nat.le_of_succ_le hm), expressionEnd]
  simp only [Option.map_map]
  rfl

lemma plainExpressionEnd_lowerOnto (ht : Quiet t) (ps : List Piece) :
    plainExpressionEnd (lowerOnto n t ps) = (plainExpressionEnd ps).map (lowerOnto n t) := by
  obtain ⟨hk, hm⟩ := expressionFuel_lowerOnto (n := n) (t := t) ps
  rw [plainExpressionEnd, (expressionsLower ht _).expression (Nat.le_of_succ_le hk) (Nat.le_of_succ_le hm),
    plainExpressionEnd]
  cases expression [] (expressionFuel ps) ps with
  | none => rfl
  | some r => obtain ⟨_ | _, rest⟩ := r <;> rfl

lemma expressionsEnd_lowerOnto (ht : Quiet t) (reserved : List String) (ps : List Piece) :
    expressionsEnd reserved (lowerOnto n t ps) = (expressionsEnd reserved ps).map (lowerOnto n t) := by
  obtain ⟨hk, hm⟩ := expressionFuel_lowerOnto (n := n) (t := t) ps
  exact (expressionsLower ht _).expressions reserved hk hm

lemma isExpression_lower (ps : List Piece) : isExpression (lowerOnto n [] ps) = isExpression ps := by
  rw [isExpression, expressionEnd_lowerOnto .nil, isExpression]
  cases expressionEnd ps <;> simp

end Quadrature.C
