import Quadrature.Proofs.PlainParameters

/-! How the pieces of a prototype are read, from its type to the item that it is. -/

namespace Quadrature.C

variable {p q n star : Piece} {ps ts rest : List Piece} {t w : String}

structure Prototype (t w : String) (ts : List Piece) (n r q : Piece) (rank : Int)
    (ps : Parameters) : Prop where
  type : t ∈ plainTypes
  spells : Spells t ts
  name : n.word? = some w
  declarable : Declarable t w
  call : w ∉ Word.callModifiers
  round : ∃ round, r.token = .round round ∧ round.parameters = some ⟨rank, ps⟩ ∧
    ∀ d ∈ round.declarator, d.rank ≤ rank
  semicolon : q.isMark ";" = true

variable {r : Piece} {rank : Int} {params : Parameters}

lemma initDeclarators_function {round : Round} (hn : n.word? = some w) (hm : w ∉ Word.modifiers)
    (hc : w ∉ Word.callModifiers) (hr : r.token = .round round) (hp : round.parameters = some ⟨rank, params⟩)
    (hs : q.isMark ";" = true) (fuel : Nat) :
    initDeclarators (fuel + 1) [n, r, q] = some ⟨rank, [.function params (.name w)], q.extent, []⟩ := by
  obtain ⟨hq, hqt⟩ := Piece.isMark_eq_true hs
  have hnot : false = true → w ∉ Word.qualifiers ++ Word.pointerModifiers := by simp
  have hd : declaratorReading false Word.modifiers false [n, r, q] =
      some ⟨rank, .function params (.name w), false, [q]⟩ := by
    rw [declaratorReading_word hn hm hnot, suffixes, hr]
    simp [hp, suffixes, hq]
  have hcall : dropCallModifier [n, r, q] = [n, r, q] := by
    rw [dropCallModifier, Piece.isAny_of_word hn]
    simp [hc]
  have hi : initDeclarator [n, r, q] = some ⟨rank, .function params (.name w), [q]⟩ := by
    rw [initDeclarator, hcall, hd]
    simp [Piece.isMark, hq, hqt, Piece.isAny, Piece.word?]
  rw [initDeclarators, hi]
  simp [hs]

lemma Prototype.initDeclarators (h : Prototype t w ts n r q rank params) (fuel : Nat) :
    C.initDeclarators (fuel + 1) [n, r, q] =
      some ⟨rank, [.function params (.name w)], q.extent, []⟩ := by
  obtain ⟨round, hr, hp, -⟩ := h.round
  exact initDeclarators_function h.name h.declarable.modifiers h.call hr hp h.semicolon fuel

/-- If the name is read as the base of a sized type, the parameters are left, and no good declarator. -/
lemma Prototype.initDeclarators_round (h : Prototype t w ts n r q rank params) (fuel : Nat) :
    ∀ x ∈ C.initDeclarators fuel (dropModifiers [r, q]), x.rank < rank := by
  obtain ⟨round, hr, -, hd⟩ := h.round
  obtain ⟨hq, hqt⟩ := Piece.isMark_eq_true h.semicolon
  have hplain : r.Plain := ⟨fun v hv => by simp [Piece.word?, hr] at hv, by rw [Piece.square?, hr]⟩
  have hcall : dropCallModifier [r, q] = [r, q] := by
    simp [dropCallModifier, Piece.isAny, Piece.word?, hr]
  rw [hplain.dropModifiers_cons]
  intro x hx
  cases fuel with
  | zero => cases hx
  | succ fuel =>
    rw [C.initDeclarators, initDeclarator, hcall] at hx
    cases hround : round.declarator with
    | none => simp [declaratorReading, Piece.isMark, hr, hround] at hx
    | some d =>
      have hdecl : declaratorReading false Word.modifiers false [r, q] =
          some ⟨d.rank - 10, .parens d.value, false, [q]⟩ := by
        simp [declaratorReading, Piece.isMark, hr, hround, suffixes, hq]
      obtain rfl : ⟨d.rank - 10, [.parens d.value], q.extent, []⟩ = x := by
        simpa [hdecl, Piece.isMark, hq, hqt, Piece.isAny, Piece.word?] using hx
      have := hd d hround
      dsimp only
      omega

lemma Prototype.declarationReading (h : Prototype t w ts n r q rank params) :
    ∃ e, C.declarationReading (ts ++ [n, r, q]) =
      some ⟨rank, ⟨e, plainSpecifier t, [.function params (.name w)]⟩, []⟩ := by
  obtain ⟨round, hr, -, -⟩ := h.round
  obtain ⟨p, ps, rfl, -⟩ := h.spells.exists_cons h.type
  have hword : ∀ x ∈ [r, q].head?, x.word? = none := by simp [Piece.word?, hr]
  refine ⟨p.extent.upTo q.extent, ?_⟩
  have hfirst : C.initDeclarators 3 [n, r, q] =
      some ⟨rank, [.function params (.name w)], q.extent, []⟩ := h.initDeclarators 2
  rw [List.cons_append, C.declarationReading, ← List.cons_append,
    specifierReadings_name h.type h.spells h.name h.declarable hword]
  split_ifs
  · have hsecond := h.initDeclarators_round (dropModifiers [r, q]).length
    cases hi : C.initDeclarators (dropModifiers [r, q]).length (dropModifiers [r, q]) with
    | none => simp [hfirst, hi, Ranked.best, Ranked.better]
    | some x =>
      have hlt := hsecond x hi
      have hbest : ¬ rank < -1 + x.rank := by omega
      simp [hfirst, hi, Ranked.best, Ranked.better, hbest]
  · simp [hfirst, Ranked.best, Ranked.better]

lemma definitionReadings_eq_nil {old : Bool} (h : ∀ p ∈ ps, p.curly? = none) :
    definitionReadings old ps = [] := by
  cases ps with
  | nil => rfl
  | cons p ps =>
    rw [definitionReadings, List.flatMap_eq_nil_iff]
    intro s hs
    have hmem : ∀ x ∈ s.value.2, x.curly? = none := fun x hx =>
      h x ((dropCallModifier_suffix _).mem ((specifierReadings_suffix hs).mem hx))
    have hnone : ∀ reach : DefinitionReach, ¬ reach.In s.value.2 := by
      rintro reach ⟨x, hc, -, hx⟩
      rw [hmem x (hx.mem List.mem_cons_self)] at hc
      cases hc
    have hold : oldStyleReading s.value.2 = none := by
      by_contra hne
      obtain ⟨x, hx⟩ := Option.ne_none_iff_exists'.mp hne
      exact hnone _ (oldStyleReading_in hx)
    have hnew : prototypedReading s.value.2 = none := by
      by_contra hne
      obtain ⟨x, hx⟩ := Option.ne_none_iff_exists'.mp hne
      exact hnone _ (prototypedReading_in hx)
    rw [hold, hnew]
    cases old <;> rfl

lemma curly?_of_words {ws : List String} {round : Round} (hts : ts.map Piece.word? = ws.map some)
    (hn : n.word? = some w) (hr : r.token = .round round) (hs : q.isMark ";" = true) :
    ∀ p ∈ ts ++ [n, r, q], p.curly? = none := by
  have hword : ∀ {p : Piece} {v : String}, p.word? = some v → p.curly? = none := by
    intro p v hp
    rw [Piece.curly?, (Piece.word?_eq_some hp).1]
  intro p hp
  rw [List.mem_append] at hp
  rcases hp with hp | hp
  · obtain ⟨v, hv⟩ := Piece.exists_word hts hp
    exact hword hv
  · simp only [List.mem_cons, List.not_mem_nil, or_false] at hp
    rcases hp with rfl | rfl | rfl
    · exact hword hn
    · rw [Piece.curly?, hr]
    · rw [Piece.curly?, (Piece.isMark_eq_true hs).1]

lemma Prototype.curly (h : Prototype t w ts n r q rank params) :
    ∀ p ∈ ts ++ [n, r, q], p.curly? = none := by
  obtain ⟨round, hr, -, -⟩ := h.round
  exact curly?_of_words h.spells.words h.name hr h.semicolon

lemma Prototype.declaredReading (h : Prototype t w ts n r q rank params) (old : Bool) :
    ∃ e, C.declaredReading old (ts ++ [n, r, q]) =
      some ⟨rank, .declaration ⟨e, plainSpecifier t, [.function params (.name w)]⟩, []⟩ := by
  obtain ⟨e, he⟩ := h.declarationReading
  exact ⟨e, by rw [C.declaredReading, definitionReadings_eq_nil h.curly, he]; rfl⟩

def itemWords : List String :=
  ["extern", "typedef", "__extension__"] ++ Word.statements ++ Word.blockStatements ++ Word.operands

lemma plainTypes_itemWords : ∀ t ∈ plainTypes, headWord t ∉ itemWords := by
  decide +kernel

lemma itemReading_of_word {x : Piece} (hp : p.word? = some w) (hw : w ∉ itemWords) (top : Bool) :
    itemReading top (p :: x :: ps) = plainItem top (p :: x :: ps) := by
  obtain ⟨htok, htext⟩ := Piece.word?_eq_some hp
  simp only [itemWords, List.mem_append, List.mem_cons, List.not_mem_nil, or_false, not_or] at hw
  obtain ⟨⟨⟨⟨he, ht, hx⟩, hs⟩, hb⟩, ho⟩ := hw
  unfold itemReading
  dsimp only
  rw [htok]
  simp [htext, he, ht, hx, hs, hb, ho]

lemma postfixes_word (hp : p.word? = some w) (assignable : Bool) (rest : List Piece) :
    postfixes assignable (p :: rest) = ⟨assignable, p :: rest⟩ := by
  have htok := (Piece.word?_eq_some hp).1
  cases rest <;> simp [postfixes, Piece.isRound, Piece.round?, Piece.isSquare, Piece.square?,
    Piece.isAnyMark, htok]

lemma expression_words {v : String} (hp : p.word? = some v) (hv : v ∉ itemWords) (hq : q.word? = some w)
    (fuel : Nat) : expression [] (fuel + 2) (p :: q :: rest) = some (false, q :: rest) := by
  obtain ⟨htok, htext⟩ := Piece.word?_eq_some hp
  have hqt := (Piece.word?_eq_some hq).1
  simp only [itemWords, Word.operands, List.mem_append, List.mem_cons, List.not_mem_nil, or_false,
    not_or] at hv
  obtain ⟨⟨⟨⟨-, -, hx⟩, -⟩, -⟩, ⟨⟨⟨hs, ho, hg⟩, hal⟩, has⟩, hc⟩ := hv
  have hword : wordOperand v (q :: rest) = some ⟨true, q :: rest⟩ := by
    simp [wordOperand, hc, hal, ho, hg, has, Piece.isString, hqt, postfixes_word hq]
  have hoperand : operand [] (fuel + 1) (p :: q :: rest) = some ⟨true, q :: rest⟩ := by
    rw [operand, htok]
    simp [htext, hx, hs, hword]
  rw [expression, hoperand]
  simp [operations, Piece.isAnyMark, Piece.isMark, hqt]

lemma expressionStatementEnd_words {v : String} (hp : p.word? = some v) (hv : v ∉ itemWords)
    (hq : q.word? = some w) (top : Bool) : expressionStatementEnd top (p :: q :: rest) = none := by
  obtain ⟨fuel, hf⟩ : ∃ fuel, expressionFuel (p :: q :: rest) = fuel + 3 :=
    ⟨_, (Nat.sub_add_cancel (by simp only [expressionFuel]; omega)).symm⟩
  have hplain : plainExpressionEnd (p :: q :: rest) = some (q :: rest) := by
    rw [plainExpressionEnd, hf, expression_words hp hv hq (fuel + 1)]
  have hall : expressionsEnd [] (p :: q :: rest) = some (q :: rest) := by
    rw [expressionsEnd, hf, expressions, expression_words hp hv hq fuel]
    simp [Piece.isMark_of_word hq]
  rw [expressionStatementEnd, hplain, hall, Piece.isMark_of_word hp]
  simp [afterMark, Piece.isMark_of_word hq]

lemma Prototype.emptyDeclarationEnd (h : Prototype t w ts n r q rank params) :
    C.emptyDeclarationEnd (ts ++ [n, r, q]) = none := by
  obtain ⟨round, hr, -, -⟩ := h.round
  have hround : ∀ x ∈ [n, r, q].head?, x.round? = none := by simpa using Piece.round?_of_word h.name
  have hword : ∀ x ∈ [r, q].head?, x.word? = none := by simp [Piece.word?, hr]
  have hmark : r.isMark ";" = false := by rw [Piece.isMark, hr]
  rw [C.emptyDeclarationEnd, typeReadings_spells h.type h.spells hround,
    wordTypes_name h.name h.declarable.sizes h.declarable.primitives hword]
  split_ifs <;> simp [Piece.isMark_of_word h.name, hmark]

lemma itemReading_of_declared {x : Piece} {v : String} {r : Ranked (Item × List Piece)} (hp : p.word? = some v)
    (hv : v ∉ itemWords) (hx : x.word? = some w) (hd : declaredReading true (p :: x :: ps) = some r)
    (he : emptyDeclarationEnd (p :: x :: ps) = none) (top : Bool) :
    itemReading top (p :: x :: ps) = some ([r.value.1], r.value.2) := by
  rw [itemReading_of_word hp hv]
  unfold plainItem
  rw [hd, expressionStatementEnd_words hp hv hx, he]
  simp [preferred, Piece.isMark_of_word hx]

lemma Prototype.itemReading (h : Prototype t w ts n r q rank params) (top : Bool) :
    ∃ e, C.itemReading top (ts ++ [n, r, q]) =
      some ([.declaration ⟨e, plainSpecifier t, [.function params (.name w)]⟩], []) := by
  obtain ⟨e, he⟩ := h.declaredReading true
  refine ⟨e, ?_⟩
  have hempty := h.emptyDeclarationEnd
  obtain ⟨p, ps, rfl, hp, hps⟩ := h.spells.exists_cons h.type
  obtain ⟨x, xs, v, hx, hxs⟩ : ∃ x xs v, x.word? = some v ∧ p :: ps ++ [n, r, q] = p :: x :: xs := by
    cases ps with
    | nil => exact ⟨n, [r, q], w, h.name, rfl⟩
    | cons x ps =>
      obtain ⟨v, hv⟩ := Piece.exists_word hps List.mem_cons_self
      exact ⟨x, _, v, hv, rfl⟩
  rw [hxs] at he hempty ⊢
  exact itemReading_of_declared hp (plainTypes_itemWords t h.type) hx he hempty top

end Quadrature.C
