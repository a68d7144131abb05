import Quadrature.Proofs.LoweredStatements

/-! Items read from pieces that were moved down. -/

namespace Quadrature.C

variable {n k m : Nat} {p : Piece} {t ps : List Piece}

def ItemReach.lowerOnto (n : Nat) (t : List Piece) (r : ItemReach) : ItemReach :=
  (lowerItems n r.1, C.lowerOnto n t r.2)

lemma statement_lowerOnto (n : Nat) (t : List Piece) (o : Option (List Piece)) :
    ((o.map (lowerOnto n t)).map fun rest => (([] : List Item), rest)) =
      (o.map fun rest => ([], rest)).map (ItemReach.lowerOnto n t) := by
  cases o <;> rfl

lemma declared_lowerOnto (ht : Quiet t) (old : Bool) (ps : List Piece) :
    ((declaredReading old (lowerOnto n t ps)).map fun r => (⟨r.rank, ([r.value.1], r.value.2)⟩ : Ranked ItemReach)) =
      ((declaredReading old ps).map fun r => ⟨r.rank, ([r.value.1], r.value.2)⟩).map
        (Ranked.map (ItemReach.lowerOnto n t)) := by
  rw [declaredReading_lowerOnto ht, Option.map_map, Option.map_map]
  rfl

lemma linkageReading_lowerOnto (ht : Quiet t) (start : Extent) (ps : List Piece) :
    linkageReading (start.lower n) (lowerOnto n t ps) =
      (linkageReading start ps).map (ItemReach.lowerOnto n t) := by
  have hd := declaredReading_lowerOnto (n := n) ht false ps
  cases ps with
  | nil =>
    cases ht with
    | nil => rfl
    | branch lead text extent b =>
      have hnil : declaredReading false [] = none := rfl
      rw [hnil, lowerOnto_nil] at hd
      simp [linkageReading, hd]
  | cons p ps =>
    have hitems : ((p.lower n).curly?).bind Curly.items = (p.curly?.bind Curly.items).map (lowerItems n) := by
      cases hp : p.curly? <;> simp [hp, Curly.lower]
    rw [lowerOnto_cons] at hd
    simp only [lowerOnto_cons, linkageReading, hitems, hd]
    cases p.curly?.bind Curly.items with
    | some items => rfl
    | none =>
      cases declaredReading false (p :: ps) with
      | none => rfl
      | some r =>
        obtain ⟨rank, item, rest⟩ := r
        cases item <;> rfl

def labelEnd : List Piece → Option (List Piece)
  | p :: q :: ps =>
    if p.word?.isSome && q.isMark ":" then statementEnd (statementFuel (p :: q :: ps)) (p :: q :: ps) else none
  | _ => none

lemma labelEnd_lowerOnto (ht : Quiet t) (ps : List Piece) :
    labelEnd (lowerOnto n t ps) = (labelEnd ps).map (lowerOnto n t) := by
  have hs := statementEnd_lowerOnto (n := n) ht ps
  match ps with
  | [] => cases ht <;> rfl
  | [p] => cases ht <;> simp [labelEnd]
  | p :: q :: ps =>
    simp only [lowerOnto_cons] at hs
    simp only [lowerOnto_cons, labelEnd, Piece.word?_lower, Piece.isMark_lower, hs]
    split_ifs <;> rfl

lemma plainItem_eq (top : Bool) (ps : List Piece) :
    plainItem top ps = preferred ((declaredReading true ps).map fun r => ⟨r.rank, ([r.value.1], r.value.2)⟩)
      ((((labelEnd ps).or (expressionStatementEnd top ps)).or (emptyDeclarationEnd ps)).map fun rest => ([], rest)) := by
  match ps with
  | [] => rfl
  | [p] => rfl
  | p :: q :: ps => rfl

lemma plainItem_lowerOnto (ht : Quiet t) (top : Bool) (ps : List Piece) :
    plainItem top (lowerOnto n t ps) = (plainItem top ps).map (ItemReach.lowerOnto n t) := by
  rw [plainItem_eq, declared_lowerOnto ht, labelEnd_lowerOnto ht, expressionStatementEnd_lowerOnto ht,
    emptyDeclarationEnd_lowerOnto ht, ← Option.map_or, ← Option.map_or, statement_lowerOnto, preferred_map,
    plainItem_eq]

/-- What is read first is read first further down, and with a branch behind everything. Only a lone word
can get a reading from the branch that it does not have without. -/
lemma itemReading_lowerOnto (ht : Quiet t) {top : Bool} (h : t = [] ∨ (itemReading top ps).isSome = true) :
    itemReading top (lowerOnto n t ps) = (itemReading top ps).map (ItemReach.lowerOnto n t) := by
  cases ps with
  | nil =>
    obtain rfl : t = [] := h.resolve_right nofun
    rfl
  | cons p ps =>
    have hs := statementEnd_lowerOnto (n := n) ht (p :: ps)
    have he := expressionStatementEnd_lowerOnto (n := n) ht top (p :: ps)
    have hd := declared_lowerOnto (n := n) ht true (p :: ps)
    have hplain := plainItem_lowerOnto (n := n) ht top (p :: ps)
    simp only [lowerOnto_cons] at hs he hd hplain
    cases hp : p.token with
    | directive => simp [itemReading, hp, Token.lower, ItemReach.lowerOnto, lowerItems]
    | branch b =>
      simp only [lowerOnto_cons, itemReading, Piece.token_lower, hp, Token.lower, Branch.lower]
      cases b.items <;> rfl
    | curly c =>
      simp only [lowerOnto_cons, itemReading, Piece.token_lower, hp, Token.lower, hs]
      exact statement_lowerOnto n t _
    | square s =>
      simp only [lowerOnto_cons, itemReading, Piece.token_lower, hp, Token.lower, hs, hd]
      rw [statement_lowerOnto, preferred_map]
    | round r => simp only [lowerOnto_cons, itemReading, Piece.token_lower, hp, Token.lower, he, statement_lowerOnto]
    | lexeme sort =>
      cases sort with
      | word =>
        cases ps with
        | nil =>
          obtain rfl : t = [] := h.resolve_right (by simp [itemReading, hp])
          simp [itemReading, hp, Token.lower]
        | cons q ps =>
          have htypedef := typeDefinitionReading_lowerOnto (n := n) ht p.extent
          have htypedef' := htypedef (q :: ps)
          simp only [lowerOnto_cons] at hs he hd hplain htypedef'
          simp only [lowerOnto_cons, itemReading, Piece.token_lower, hp, Token.lower, Piece.text_lower,
            Piece.isString_lower, Piece.isWord_lower, Piece.extent_lower, linkageReading_lowerOnto ht, htypedef,
            htypedef', hs, he, hplain, Option.map_map]
          split_ifs <;> first | rfl | (rw [Option.map_map]; rfl)
      | _ => simp only [lowerOnto_cons, itemReading, Piece.token_lower, hp, Token.lower, he, statement_lowerOnto]

lemma lowerItems_append (xs ys : List Item) : lowerItems n (xs ++ ys) = lowerItems n xs ++ lowerItems n ys := by
  simp [lowerItems_eq_map]

lemma itemsReading_cons {top : Bool} {items : List Item} (h : itemsReading top (k + 1) (p :: ps) = .ok items) :
    ∃ first rest others, itemReading top (p :: ps) = some (first, rest) ∧
      itemsReading top k rest = .ok others ∧ items = first ++ others := by
  rw [itemsReading] at h
  split at h
  · next first rest hr =>
    cases ho : itemsReading top k rest with
    | error e =>
      rw [ho] at h
      cases h
    | ok others =>
      rw [ho] at h
      exact ⟨first, rest, others, hr, ho, (Except.ok.inj h).symm⟩
  · cases h

lemma itemsReading_lowerOnto (ht : Quiet t) {top : Bool} {items more : List Item}
    (hmore : ∀ m, itemsReading top (m + 1) t = .ok more) (h : itemsReading top k ps = .ok items) :
    itemsReading top (k + 1) (lowerOnto n t ps) = .ok (lowerItems n items ++ more) := by
  induction k generalizing ps items with
  | zero =>
    cases ps with
    | nil =>
      obtain rfl := Except.ok.inj h
      exact hmore 0
    | cons p ps => cases h
  | succ k ih =>
    cases ps with
    | nil =>
      obtain rfl := Except.ok.inj h
      exact hmore (k + 1)
    | cons p ps =>
      obtain ⟨first, rest, others, hr, ho, rfl⟩ := itemsReading_cons h
      have hi := itemReading_lowerOnto (n := n) ht (.inr (by rw [hr]; rfl))
      rw [hr, lowerOnto_cons] at hi
      rw [lowerOnto_cons, itemsReading, hi]
      simp only [Option.map_some, ItemReach.lowerOnto, ih ho, lowerItems_append, List.append_assoc]
      rfl

end Quadrature.C
