import Quadrature.Proofs.PlainTypes

/-! Parameters of plain types: with a name, without one, and behind a pointer. -/

namespace Quadrature.C

variable {p q n star : Piece} {ps ts rest : List Piece} {t w : String}

lemma declaratorReading_word {reserved : List String} {pointed : Bool} (hn : n.word? = some w)
    (hw : w ∉ reserved) (hq : pointed = true → w ∉ Word.qualifiers ++ Word.pointerModifiers) :
    declaratorReading false reserved pointed (n :: rest) =
      suffixes false (.name w) 0 .bare false rest := by
  obtain ⟨htok, htext⟩ := Piece.word?_eq_some hn
  have hp : (pointed && (Word.qualifiers ++ Word.pointerModifiers).contains w) = false := by
    cases pointed with
    | false => rfl
    | true => simpa using hq rfl
  rw [declaratorReading, Piece.isMark_of_word hn, Piece.isAny_of_word hn, hp, htok]
  simp [htext, hw, nameDeclarator]

lemma abstractReading_word (hn : n.word? = some w) : abstractReading false (n :: rest) = none := by
  rw [abstractReading, Piece.isMark_of_word hn, (Piece.word?_eq_some hn).1]
  rfl

lemma parameterDeclarators_name (hn : n.word? = some w) (hw : w ∉ Word.modifiers) :
    parameterDeclarators [n] = [⟨0, .name w⟩] := by
  have hp : false = true → w ∉ Word.qualifiers ++ Word.pointerModifiers := by simp
  simp only [parameterDeclarators, abstractReading_word hn, declaratorReading_word hn hw hp]
  rfl

lemma parameterReading_name (ht : t ∈ plainTypes) (h : Spells t ts) (hn : n.word? = some w)
    (hw : Declarable t w) :
    parameterReading (ts ++ [n]) = some ⟨0, plainSpecifier t, .name w⟩ := by
  rw [parameterReading, specifierReadings_name ht h hn hw (by simp), List.flatMap_cons,
    parameterDeclarators_name hn hw.modifiers]
  split_ifs
  · rfl
  · rfl

lemma parameterReading_type (ht : t ∈ plainTypes) (h : Spells t ts) :
    parameterReading ts = some ⟨0, plainSpecifier t, .absent⟩ := by
  have hs : specifierReadings ts = [⟨0, plainSpecifier t, []⟩] := by
    have hnil : ∀ q ∈ ([] : List Piece).head?, q.round? = none := by simp
    have he := specifierReadings_eq ht h hnil
    rwa [List.append_nil, wordTypes_stop (by simp), wordType_spells ht h] at he
  rw [parameterReading, hs]
  rfl

lemma Piece.plain_of_mark {m : String} (h : p.isMark m = true) : p.Plain := by
  obtain ⟨ht, -⟩ := Piece.isMark_eq_true h
  exact ⟨fun w hw => by simp [Piece.word?, ht] at hw, by rw [Piece.square?, ht]⟩

lemma parameterDeclarators_pointer (hs : star.isMark "*" = true) (hn : n.word? = some w)
    (hw : w ∉ Word.modifiers ++ Word.pointerModifiers) :
    parameterDeclarators [star, n] = [⟨1, .pointer (.name w)⟩] := by
  have hsub : Word.qualifiers ++ Word.pointerModifiers ⊆ Word.modifiers ++ Word.pointerModifiers := by
    decide
  have hsub' : Word.alignments ⊆ Word.modifiers ++ Word.pointerModifiers := by decide
  have hq : w ∉ Word.qualifiers ++ Word.pointerModifiers := fun hm => hw (hsub hm)
  have ha : abstractReading false [star, n] = some ⟨1, .pointer .absent, [n]⟩ := by
    rw [abstractReading, hs, if_pos rfl, abstractReading, Piece.isMark_of_word hn, Piece.isAny_of_word hn,
      (Piece.word?_eq_some hn).1]
    simp [hq]
  have hd : declaratorReading false Word.modifiers false [star, n] =
      some ⟨1, .pointer (.name w), false, []⟩ := by
    rw [declaratorReading, hs, if_pos rfl, declaratorReading_word hn (fun hm => hw (hsub' hm)) fun _ => hq]
    rfl
  simp only [parameterDeclarators, ha, hd]
  rfl

lemma parameterReading_pointer (ht : t ∈ plainTypes) (h : Spells t ts) (hs : star.isMark "*" = true)
    (hn : n.word? = some w) (hw : w ∉ Word.modifiers ++ Word.pointerModifiers) :
    parameterReading (ts ++ [star, n]) = some ⟨1, plainSpecifier t, .pointer (.name w)⟩ := by
  obtain ⟨htok, -⟩ := Piece.isMark_eq_true hs
  have hround : ∀ q ∈ [star, n].head?, q.round? = none := by simp [Piece.round?, htok]
  have hword : ∀ q ∈ [star, n].head?, q.word? = none := by simp [Piece.word?, htok]
  rw [parameterReading, specifierReadings_eq ht h hround, wordTypes_stop hword, List.map_singleton,
    (Piece.plain_of_mark hs).dropModifiers_cons, wordType_spells ht h, List.flatMap_singleton,
    parameterDeclarators_pointer hs hn hw]
  rfl

def NoComma (ps : List Piece) : Prop := ∀ p ∈ ps, p.isMark "," = false

lemma splitCommas_of_noComma (h : NoComma ps) : splitCommas ps = [ps] := by
  induction ps with
  | nil => rfl
  | cons p ps ih =>
    rw [splitCommas, h p List.mem_cons_self, ih fun q hq => h q (List.mem_cons_of_mem p hq)]
    rfl

lemma splitCommas_append (h : NoComma ps) (hq : q.isMark "," = true) (rest : List Piece) :
    splitCommas (ps ++ q :: rest) = ps :: splitCommas rest := by
  induction ps with
  | nil => simp [splitCommas, hq]
  | cons p ps ih =>
    rw [List.cons_append, splitCommas, h p List.mem_cons_self,
      ih fun r hr => h r (List.mem_cons_of_mem p hr)]
    rfl

def Parameters.ofEntries : List (Extent × Specifier × Declarator) → Parameters
  | [] => .none
  | (e, s, d) :: rest => .typed s d e (ofEntries rest)

inductive Lists : List Piece → Int → List (Specifier × Declarator) → Prop
  | one {ps : List Piece} {r : Ranked (Specifier × Declarator)} : NoComma ps → isEllipsis ps = false →
      parameterReading ps = some r → Lists ps r.rank [r.value]
  | more {ps rest : List Piece} {q : Piece} {r : Ranked (Specifier × Declarator)} {rank : Int}
      {es : List (Specifier × Declarator)} : NoComma ps → isEllipsis ps = false →
      parameterReading ps = some r → q.isMark "," = true → Lists rest rank es →
      Lists (ps ++ q :: rest) (r.rank + rank) (r.value :: es)

lemma Lists.parameterEntries {rank : Int} {es : List (Specifier × Declarator)} (h : Lists ps rank es) :
    ∃ xs, C.parameterEntries (splitCommas ps) = some ⟨rank, .ofEntries xs⟩ ∧ xs.map Prod.snd = es := by
  induction h with
  | @one ps r hc he hr =>
    refine ⟨[(extentOf ps, r.value)], ?_, rfl⟩
    simp [splitCommas_of_noComma hc, C.parameterEntries, he, hr, Parameters.ofEntries]
  | @more ps rest q r rank es hc he hr hq _ ih =>
    obtain ⟨xs, hxs, hes⟩ := ih
    refine ⟨(extentOf ps, r.value) :: xs, ?_, by rw [List.map_cons, hes]⟩
    simp [splitCommas_append hc hq, C.parameterEntries, hxs, he, hr, Parameters.ofEntries]

lemma Lists.parameterList {rank : Int} {es : List (Specifier × Declarator)} (h : Lists ps rank es)
    (hne : ps ≠ []) :
    ∃ xs, C.parameterList ps = some ⟨rank, .ofEntries xs⟩ ∧ xs.map Prod.snd = es := by
  cases ps with
  | nil => exact absurd rfl hne
  | cons p ps => exact h.parameterEntries

lemma suffixes_stop {d : Declarator} {rank : Int} (h : ∀ q ∈ rest.head?, q.round? = none ∧ q.square? = none) :
    suffixes false d rank .bare false rest = some ⟨rank, d, false, rest⟩ := by
  cases rest with
  | nil => rfl
  | cons q rest =>
    obtain ⟨hr, hs⟩ := h q rfl
    rw [suffixes]
    cases ht : q.token with
    | round r => simp [Piece.round?, ht] at hr
    | square r => simp [Piece.square?, ht] at hs
    | lexeme k => cases k <;> simp
    | _ => simp

lemma Piece.not_group_of_word (h : p.word? = some w) : p.round? = none ∧ p.square? = none :=
  ⟨Piece.round?_of_word h, by rw [Piece.square?, (Piece.word?_eq_some h).1]⟩

lemma declaratorReading_words {reserved : List String} {v : String} (hp : p.word? = some w) (hw : w ∉ reserved)
    (hq : q.word? = some v) :
    declaratorReading false reserved false (p :: q :: rest) = some ⟨0, .name w, false, q :: rest⟩ := by
  have hstop : ∀ x ∈ (q :: rest).head?, x.round? = none ∧ x.square? = none := by
    intro x hx
    obtain rfl := Option.some.inj hx
    exact Piece.not_group_of_word hq
  rw [declaratorReading_word hp hw (by simp), suffixes_stop hstop]

lemma declaratorReading_reserved {reserved : List String} (hp : p.word? = some w) (hw : w ∈ reserved) :
    declaratorReading false reserved false (p :: rest) = none := by
  obtain ⟨htok, htext⟩ := Piece.word?_eq_some hp
  rw [declaratorReading, Piece.isMark_of_word hp, htok]
  simp [htext, hw]

lemma enclosedDeclarator_word (hp : p.word? = some w) (hw : w ∉ Word.callModifiers)
    (hr : ∀ q ∈ rest.head?, q.round? = none ∧ q.square? = none) :
    ∀ d ∈ enclosedDeclarator false (p :: rest), d.rank = 0 := by
  intro d hd
  have hm : p.isAny Word.callModifiers = false := by
    rw [Piece.isAny_of_word hp]
    simpa using hw
  by_cases hres : w ∈ Word.modifiers ++ Word.types
  · simp [enclosedDeclarator, hm, declaratorReading_reserved hp hres] at hd
  · have hsome : declaratorReading false (Word.modifiers ++ Word.types) false (p :: rest) =
        some ⟨0, .name w, false, rest⟩ := by
      rw [declaratorReading_word hp hres (by simp), suffixes_stop hr]
    cases rest with
    | nil =>
      obtain rfl : ⟨0, .name w⟩ = d := by simpa [enclosedDeclarator, hm, hsome] using hd
      rfl
    | cons q rest => simp [enclosedDeclarator, hm, hsome] at hd

lemma enclosedDeclarator_words {v : String} (hp : p.word? = some w) (hw : w ∉ Word.callModifiers)
    (hq : q.word? = some v) : enclosedDeclarator false (p :: q :: rest) = none := by
  have hm : p.isAny Word.callModifiers = false := by
    rw [Piece.isAny_of_word hp]
    simpa using hw
  by_cases hres : w ∈ Word.modifiers ++ Word.types
  · simp [enclosedDeclarator, hm, declaratorReading_reserved hp hres]
  · simp [enclosedDeclarator, hm, declaratorReading_words hp hres hq]

end Quadrature.C
