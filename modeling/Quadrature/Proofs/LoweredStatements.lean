import Quadrature.Proofs.LoweredDeclarations

/-! Statements read from pieces that were moved down, one lemma for each kind of them. -/

namespace Quadrature.C

variable {n k m : Nat} {p : Piece} {t ps : List Piece}

lemma afterMark_lowerOnto (ht : Quiet t) (mark : String) (ps : List Piece) :
    afterMark mark (lowerOnto n t ps) = (afterMark mark ps).map (lowerOnto n t) := by
  cases ps with
  | nil => cases ht <;> simp [afterMark]
  | cons p ps =>
    simp only [lowerOnto_cons, afterMark, Piece.isMark_lower]
    split_ifs <;> rfl

lemma afterCondition_lowerOnto (ht : Quiet t) (ps : List Piece) :
    afterCondition (lowerOnto n t ps) = (afterCondition ps).map (lowerOnto n t) := by
  cases ps with
  | nil => cases ht <;> simp [afterCondition]
  | cons p ps =>
    simp only [lowerOnto_cons, afterCondition, Piece.isRound_expression_lower]
    split_ifs <;> rfl

lemma afterBlock_lowerOnto (ht : Quiet t) (ps : List Piece) :
    afterBlock (lowerOnto n t ps) = (afterBlock ps).map (lowerOnto n t) := by
  cases ps with
  | nil => cases ht <;> simp [afterBlock]
  | cons p ps =>
    simp only [lowerOnto_cons, afterBlock, Piece.isCurly_items_lower]
    split_ifs <;> rfl

lemma bind_lowerOnto {o : Option (List Piece)} {f g : List Piece → Option (List Piece)}
    (h : ∀ ps, o = some ps → g (lowerOnto n t ps) = (f ps).map (lowerOnto n t)) :
    (o.map (lowerOnto n t)).bind g = (o.bind f).map (lowerOnto n t) := by
  cases o with
  | none => rfl
  | some ps => exact h ps rfl

lemma expressionStatementEnd_lowerOnto (ht : Quiet t) (plain : Bool) (ps : List Piece) :
    expressionStatementEnd plain (lowerOnto n t ps) = (expressionStatementEnd plain ps).map (lowerOnto n t) := by
  have hplain := plainExpressionEnd_lowerOnto (n := n) ht ps
  have hexpr := expressionsEnd_lowerOnto (n := n) ht [] ps
  have hmark : ∀ o : Option (List Piece), (o.map (lowerOnto n t)).bind (afterMark ";") =
      (o.bind (afterMark ";")).map (lowerOnto n t) :=
    fun o => bind_lowerOnto fun ps _ => afterMark_lowerOnto ht ";" ps
  cases ps with
  | nil =>
    have hp : plainExpressionEnd [] = none := by simp [plainExpressionEnd, expression_nil]
    have he : expressionsEnd [] [] = none := expressions_nil [] _
    rw [hp] at hplain
    rw [he] at hexpr
    cases ht with
    | nil => rfl
    | branch lead text extent b =>
      rw [lowerOnto_nil] at hplain hexpr
      cases plain <;> simp [expressionStatementEnd, hplain, hexpr]
  | cons p ps =>
    rw [lowerOnto_cons] at hplain hexpr
    simp only [lowerOnto_cons, expressionStatementEnd, Piece.isMark_lower, Piece.isAny_lower, Piece.isWord_lower,
      hplain, hexpr]
    split_ifs
    · rfl
    · rfl
    · rfl
    · exact hmark _
    · exact hmark _

lemma typeDefinitionEnd_lowerOnto (ht : Quiet t) (ps : List Piece) :
    typeDefinitionEnd (lowerOnto n t ps) = (typeDefinitionEnd ps).map (lowerOnto n t) := by
  match ps with
  | [] => cases ht <;> simp [typeDefinitionEnd]
  | [p] =>
    cases ht with
    | nil => rfl
    | branch lead text extent b =>
      simp [typeDefinitionEnd, typeDefinitionReading, definedTypeReadings, dropQualifiers, typeReadings, Ranked.best]
  | p :: q :: rest =>
    have h := typeDefinitionReading_lowerOnto (n := n) ht p.extent
    have hq := h (q :: rest)
    rw [lowerOnto_cons] at hq
    simp only [lowerOnto_cons, typeDefinitionEnd, Piece.isWord_lower, Piece.extent_lower, h, hq, Option.map_map]
    split_ifs
    · rw [Option.map_map]
      rfl
    · rw [Option.map_map]
      rfl
    · rfl

lemma preferred_map {α β : Type} (f : α → β) (declared : Option (Ranked α)) (statement : Option α) :
    preferred (declared.map (Ranked.map f)) (statement.map f) = (preferred declared statement).map f := by
  cases declared with
  | none => rfl
  | some d =>
    cases statement with
    | none => rfl
    | some s =>
      simp only [preferred, Option.map_some, Ranked.map]
      split_ifs <;> rfl

lemma declared_rest_lowerOnto (ht : Quiet t) (ps : List Piece) :
    ((declarationReading (lowerOnto n t ps)).map fun r => (⟨r.rank, r.value.2⟩ : Ranked (List Piece))) =
      ((declarationReading ps).map fun r => ⟨r.rank, r.value.2⟩).map (Ranked.map (lowerOnto n t)) := by
  rw [declarationReading_lowerOnto ht, Option.map_map, Option.map_map]
  rfl

structure StatementsLower (n : Nat) (t : List Piece) (k : Nat) : Prop where
  statement : ∀ {ps m}, 2 * ps.length + 1 ≤ k → 2 * ps.length + 1 ≤ m →
    statementEnd m (lowerOnto n t ps) = (statementEnd k ps).map (lowerOnto n t)
  case : ∀ {ps m}, 2 * ps.length + 2 ≤ k → 2 * ps.length + 2 ≤ m →
    caseEnd m (lowerOnto n t ps) = lowerOnto n t (caseEnd k ps)

lemma statementEnd_nil (k : Nat) : statementEnd k [] = none := by
  cases k <;> simp [statementEnd]

def caseItemEnd (k : Nat) (ps : List Piece) : Option (List Piece) :=
  (typeDefinitionEnd ps).or (preferred ((declarationReading ps).map fun r => ⟨r.rank, r.value.2⟩) (statementEnd k ps))

lemma caseItemEnd_lt {rest : List Piece} (h : caseItemEnd k ps = some rest) : rest.length < ps.length := by
  rcases Option.or_eq_some_iff.mp h with h | ⟨-, h⟩
  · exact typeDefinitionEnd_lt h
  · rcases preferred_cases h with ⟨r, hr, rfl⟩ | h
    · obtain ⟨d, hd, rfl⟩ := Option.map_eq_some_iff.mp hr
      exact declarationReading_lt hd
    · exact statementEnd_lt h

lemma caseEnd_cons (k : Nat) (p : Piece) (ps : List Piece) :
    caseEnd (k + 1) (p :: ps) = if p.isAny ["case", "default"] = true then p :: ps else
      match caseItemEnd k (p :: ps) with
      | some rest => caseEnd k rest
      | none => p :: ps := by
  rw [caseEnd]
  rfl

lemma StatementsLower.step_case (ht : Quiet t) (h : StatementsLower n t k) (hk : 2 * ps.length + 2 ≤ k + 1)
    (hm : 2 * ps.length + 2 ≤ m + 1) : caseEnd (m + 1) (lowerOnto n t ps) = lowerOnto n t (caseEnd (k + 1) ps) := by
  have hend : caseItemEnd m (lowerOnto n t ps) = (caseItemEnd k ps).map (lowerOnto n t) := by
    rw [caseItemEnd, typeDefinitionEnd_lowerOnto ht, declared_rest_lowerOnto ht, h.statement (by omega) (by omega),
      preferred_map, ← Option.map_or, caseItemEnd]
  cases ps with
  | nil =>
    have hnone : caseItemEnd k [] = none := by
      simp [caseItemEnd, typeDefinitionEnd, declarationReading, statementEnd_nil, preferred]
    cases ht with
    | nil => simp [caseEnd]
    | branch lead text extent b =>
      rw [hnone, lowerOnto_nil] at hend
      rw [lowerOnto_nil, caseEnd_cons, hend]
      simp [caseEnd]
  | cons p ps =>
    rw [lowerOnto_cons] at hend
    rw [lowerOnto_cons, caseEnd_cons, caseEnd_cons, hend, Piece.isAny_lower]
    split_ifs
    · rfl
    · cases hi : caseItemEnd k (p :: ps) with
      | none => rfl
      | some rest =>
        have hr := caseItemEnd_lt hi
        exact h.case (by omega) (by omega)

lemma expressionStatementEnd_word (hp : p.token = .lexeme .word) : expressionStatementEnd false [p] = none := by
  have hmark : p.isMark ";" = false := by simp [Piece.isMark, hp]
  cases h : expressionStatementEnd false [p] with
  | none => rfl
  | some rest =>
    simp only [expressionStatementEnd, hmark, Bool.false_eq_true, if_false] at h
    split_ifs at h
    · obtain ⟨qs, hq, ha⟩ := Option.bind_eq_some_iff.mp h
      rcases List.suffix_cons_iff.mp (expressionsEnd_suffix hq) with rfl | hs
      · simp [afterMark, hmark] at ha
      · obtain rfl := List.suffix_nil.mp hs
        cases ha

section

-- `g` reads a statement inside of another one as `f` does, further down
variable {f g : List Piece → Option (List Piece)}
  (h : ∀ {qs}, qs <:+ ps → g (lowerOnto n t qs) = (f qs).map (lowerOnto n t))
include h

lemma whileEnd_lowerOnto (ht : Quiet t) :
    (afterCondition (lowerOnto n t ps)).bind g = ((afterCondition ps).bind f).map (lowerOnto n t) := by
  rw [afterCondition_lowerOnto ht]
  exact bind_lowerOnto fun qs hq => h (afterCondition_suffix hq)

lemma ifEnd_lowerOnto (ht : Quiet t) (hf : ∀ {r s}, f r = some s → s <:+ r) :
    ifEnd g (lowerOnto n t ps) = (ifEnd f ps).map (lowerOnto n t) := by
  rw [ifEnd, ifEnd, whileEnd_lowerOnto h ht]
  cases hr : (afterCondition ps).bind f with
  | none => rfl
  | some qs =>
    have hq : qs <:+ ps := suffix_of_bind hr afterCondition_suffix hf
    cases qs with
    | nil => cases ht <;> rfl
    | cons q qs =>
      simp only [Option.map_some, lowerOnto_cons, Piece.isWord_lower, h (tail_suffix hq)]
      split_ifs <;> rfl

lemma doEnd_lowerOnto (ht : Quiet t) : doEnd g (lowerOnto n t ps) = (doEnd f ps).map (lowerOnto n t) := by
  rw [doEnd, doEnd, h List.suffix_rfl]
  cases f ps with
  | none => rfl
  | some qs =>
    cases qs with
    | nil => cases ht <;> rfl
    | cons q qs =>
      have hwhile : ((afterCondition qs).map (lowerOnto n t)).bind (afterMark ";") =
          ((afterCondition qs).bind (afterMark ";")).map (lowerOnto n t) :=
        bind_lowerOnto fun qs _ => afterMark_lowerOnto ht ";" qs
      simp only [Option.map_some, lowerOnto_cons, Piece.isWord_lower, afterCondition_lowerOnto ht, hwhile]
      split_ifs <;> rfl

lemma forEnd_lowerOnto (ht : Quiet t) : forEnd g (lowerOnto n t ps) = (forEnd f ps).map (lowerOnto n t) := by
  cases ps with
  | nil => cases ht <;> rfl
  | cons q qs =>
    simp only [lowerOnto_cons, forEnd, Piece.isRound_loop_lower, h (List.suffix_cons q qs)]
    split_ifs <;> rfl

lemma wordEnd_lowerOnto (ht : Quiet t) (hp : p.token = .lexeme .word) :
    wordEnd g (p.lower n) (lowerOnto n t ps) = (wordEnd f p ps).map (lowerOnto n t) := by
  have he := expressionStatementEnd_lowerOnto (n := n) ht false (p :: ps)
  rw [lowerOnto_cons] at he
  cases ps with
  | nil =>
    rw [expressionStatementEnd_word hp] at he
    cases ht with
    | nil => rfl
    | branch lead text extent b => simpa [wordEnd] using he
  | cons q qs =>
    rw [lowerOnto_cons] at he
    simp only [lowerOnto_cons, wordEnd, Piece.isMark_lower, Piece.text_lower, declared_rest_lowerOnto ht,
      h (List.suffix_cons q qs), preferred_map, he]
    split_ifs <;> rfl

end

lemma returnEnd_lowerOnto (ht : Quiet t) (ps : List Piece) :
    returnEnd (lowerOnto n t ps) = (returnEnd ps).map (lowerOnto n t) := by
  rw [returnEnd, returnEnd, afterMark_lowerOnto ht, expressionsEnd_lowerOnto ht,
    bind_lowerOnto fun qs _ => afterMark_lowerOnto ht ";" qs, Option.map_or]

lemma gotoEnd_lowerOnto (ht : Quiet t) (ps : List Piece) :
    gotoEnd (lowerOnto n t ps) = (gotoEnd ps).map (lowerOnto n t) := by
  cases ps with
  | nil => cases ht <;> rfl
  | cons q qs =>
    simp only [lowerOnto_cons, gotoEnd, Piece.word?_lower, afterMark_lowerOnto ht]
    split_ifs <;> rfl

lemma tryEnd_lowerOnto (ht : Quiet t) (ps : List Piece) :
    tryEnd (lowerOnto n t ps) = (tryEnd ps).map (lowerOnto n t) := by
  rw [tryEnd, tryEnd, afterBlock_lowerOnto ht]
  cases afterBlock ps with
  | none => rfl
  | some qs =>
    cases qs with
    | nil => cases ht <;> rfl
    | cons q qs =>
      have hexcept : ((afterCondition qs).map (lowerOnto n t)).bind afterBlock =
          ((afterCondition qs).bind afterBlock).map (lowerOnto n t) :=
        bind_lowerOnto fun qs _ => afterBlock_lowerOnto ht qs
      simp only [Option.map_some, lowerOnto_cons, Piece.isWord_lower, afterCondition_lowerOnto ht, hexcept,
        afterBlock_lowerOnto ht]
      split_ifs <;> rfl

lemma map_caseEnd_lowerOnto {o : Option (List Piece)}
    (h : ∀ qs, o = some qs → caseEnd m (lowerOnto n t qs) = lowerOnto n t (caseEnd k qs)) :
    (o.map (lowerOnto n t)).map (caseEnd m) = (o.map (caseEnd k)).map (lowerOnto n t) := by
  cases o with
  | none => rfl
  | some qs => exact congrArg some (h qs rfl)

lemma StatementsLower.step_word (ht : Quiet t) (h : StatementsLower n t k) (hp : p.token = .lexeme .word)
    (hk : 2 * ps.length + 2 ≤ k) (hm : 2 * ps.length + 2 ≤ m) :
    statementEnd (m + 1) (lowerOnto n t (p :: ps)) = (statementEnd (k + 1) (p :: ps)).map (lowerOnto n t) := by
  have hs : ∀ {qs}, qs <:+ ps → statementEnd m (lowerOnto n t qs) = (statementEnd k qs).map (lowerOnto n t) := by
    intro qs hq
    have hl := hq.length_le
    exact h.statement (by omega) (by omega)
  have hc : ∀ {qs}, qs <:+ ps → caseEnd m (lowerOnto n t qs) = lowerOnto n t (caseEnd k qs) := by
    intro qs hq
    have hl := hq.length_le
    exact h.case (by omega) (by omega)
  have hmark := afterMark_lowerOnto (n := n) ht ";" ps
  simp only [lowerOnto_cons, statementEnd, Piece.token_lower, hp, Token.lower, Piece.text_lower]
  split
  · exact ifEnd_lowerOnto hs ht (statementsLeaveRests k).statement
  · rw [afterCondition_lowerOnto ht]
    exact bind_lowerOnto fun qs _ => afterBlock_lowerOnto ht qs
  · exact whileEnd_lowerOnto hs ht
  · exact doEnd_lowerOnto hs ht
  · exact forEnd_lowerOnto hs ht
  · exact returnEnd_lowerOnto ht ps
  · exact hmark
  · exact hmark
  · exact hmark
  · exact gotoEnd_lowerOnto ht ps
  · rw [expressionEnd_lowerOnto ht, bind_lowerOnto fun qs _ => afterMark_lowerOnto ht ":" qs]
    exact map_caseEnd_lowerOnto fun qs hq => hc (suffix_of_bind hq expressionEnd_suffix afterMark_suffix)
  · rw [afterMark_lowerOnto ht]
    exact map_caseEnd_lowerOnto fun qs hq => hc (afterMark_suffix hq)
  · exact tryEnd_lowerOnto ht ps
  · exact wordEnd_lowerOnto hs ht hp

lemma StatementsLower.step_statement (ht : Quiet t) (h : StatementsLower n t k) (hk : 2 * ps.length + 1 ≤ k + 1)
    (hm : 2 * ps.length + 1 ≤ m + 1) :
    statementEnd (m + 1) (lowerOnto n t ps) = (statementEnd (k + 1) ps).map (lowerOnto n t) := by
  cases ps with
  | nil =>
    have he := expressionStatementEnd_lowerOnto (n := n) ht false []
    cases ht with
    | nil => simp [statementEnd]
    | branch lead text extent b => simpa [statementEnd, expressionStatementEnd] using he
  | cons p ps =>
    simp only [List.length_cons] at hk hm
    have he := expressionStatementEnd_lowerOnto (n := n) ht false (p :: ps)
    rw [lowerOnto_cons] at he
    cases hp : p.token with
    | curly c =>
      simp only [lowerOnto_cons, statementEnd, Piece.token_lower, hp, Token.lower, Curly.lower, Option.isSome_map]
      split_ifs <;> rfl
    | square s =>
      simp only [lowerOnto_cons, statementEnd, Piece.token_lower, hp, Token.lower,
        h.statement (by omega : 2 * ps.length + 1 ≤ k) (by omega : 2 * ps.length + 1 ≤ m)]
      split_ifs <;> rfl
    | lexeme sort =>
      cases sort with
      | word => exact h.step_word ht hp (by omega) (by omega)
      | _ => simp [statementEnd, hp, Token.lower, he]
    | _ => simp [statementEnd, hp, Token.lower, he]

lemma statementsLower (ht : Quiet t) (k : Nat) : StatementsLower n t k := by
  induction k with
  | zero => constructor <;> intros <;> omega
  | succ k ih =>
    constructor
    · intro ps m hk hm
      obtain ⟨m, rfl⟩ : ∃ m', m = m' + 1 := ⟨m - 1, by omega⟩
      exact ih.step_statement ht hk hm
    · intro ps m hk hm
      obtain ⟨m, rfl⟩ : ∃ m', m = m' + 1 := ⟨m - 1, by omega⟩
      exact ih.step_case ht hk hm

lemma statementEnd_lowerOnto (ht : Quiet t) (ps : List Piece) :
    statementEnd (statementFuel (lowerOnto n t ps)) (lowerOnto n t ps) =
      (statementEnd (statementFuel ps) ps).map (lowerOnto n t) := by
  apply (statementsLower ht _).statement <;> simp only [statementFuel, length_lowerOnto] <;> omega

end Quadrature.C
