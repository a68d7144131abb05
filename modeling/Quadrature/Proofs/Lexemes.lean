import Quadrature.C.Lexeme
import Quadrature.Text.Blank
import Mathlib.Data.List.Basic

/-! Lexemes start with no blank and are never empty; a word ends where no character of an identifier
follows. -/

namespace Quadrature.Text

def blankCodes : List Nat :=
  [0x09, 0x0A, 0x0B, 0x0C, 0x0D, 0x20, 0x85, 0xA0, 0x1680, 0x2000, 0x2001, 0x2002, 0x2003, 0x2004,
    0x2005, 0x2006, 0x2007, 0x2008, 0x2009, 0x200A, 0x2028, 0x2029, 0x202F, 0x205F, 0x3000]

-- in place of an instance: characters are finitely many, and the search may settle on trying them all
lemma forall_mem_of_all {P : Char → Prop} [DecidablePred P] {cs : List Char}
    (h : cs.all (fun c => decide (P c)) = true) : ∀ c ∈ cs, P c :=
  fun c hc => of_decide_eq_true (List.all_eq_true.mp h c hc)

lemma forall_blank {P : Char → Prop} (h : ∀ n ∈ blankCodes, P (Char.ofNat n)) {c : Char}
    (hc : isBlank c = true) : P c := by
  have hm : c.toNat ∈ blankCodes := by
    simp only [isBlank, Bool.or_eq_true, Bool.and_eq_true, decide_eq_true_eq, beq_iff_eq] at hc
    simp only [blankCodes, List.mem_cons, List.not_mem_nil, or_false]
    omega
  simpa only [Char.ofNat_toNat] using h c.toNat hm

lemma forall_ascii {P : Char → Prop} (h : ∀ n < 128, P (Char.ofNat n)) {c : Char} (hc : c.toNat < 128) : P c := by
  simpa only [Char.ofNat_toNat] using h c.toNat hc

lemma isXidStart_of_blank {c : Char} (h : isBlank c = true) : isXidStart c = false :=
  forall_blank (P := fun c => isXidStart c = false) (by decide +kernel) h

lemma isXidContinue_of_blank {c : Char} (h : isBlank c = true) : isXidContinue c = false :=
  forall_blank (P := fun c => isXidContinue c = false) (by decide +kernel) h

lemma isDigit_of_blank {c : Char} (h : isBlank c = true) : c.isDigit = false :=
  forall_blank (P := fun c => c.isDigit = false) (by decide) h

lemma ne_of_blank {c d : Char} (hc : isBlank c = true) (hd : isBlank d = false) : c ≠ d := by
  rintro rfl
  rw [hc] at hd
  exact nomatch hd

end Quadrature.Text

namespace Quadrature.C.Lexeme

open Text

lemma identifierUnit_eq {c : Char} (cs : List Char) (own : Char → Bool) (hc : c ≠ '\\') :
    identifierUnit own (c :: cs) = if own c then 1 else 0 := by
  unfold identifierUnit
  split <;> simp_all

def Delimited (cs : List Char) : Prop := ∀ c ∈ cs.head?, isBlank c = true ∨ c = '('

instance : DecidablePred Delimited := fun cs => Option.decidableForallMem cs.head?

lemma identifierRest_eq_zero {c : Char} (hx : (isXidContinue c || c == '$') = false) (hc : c ≠ '\\')
    (cs : List Char) : identifierRest 0 (c :: cs) = 0 := by
  simp only [identifierRest, identifierUnit_eq cs _ hc, hx, Bool.false_eq_true, if_false]

lemma identifierRest_delimited {cs : List Char} (h : Delimited cs) : identifierRest 0 cs = 0 := by
  cases cs with
  | nil => rfl
  | cons c cs =>
    have hb := h c rfl
    have hc : c ≠ '\\' := by
      rcases hb with hb | rfl
      · exact ne_of_blank hb rfl
      · decide
    have hx : (isXidContinue c || c == '$') = false := by
      rcases hb with hb | rfl
      · simp [isXidContinue_of_blank hb, ne_of_blank hb (d := '$') rfl]
      · decide
    exact identifierRest_eq_zero hx hc cs

lemma identifierRest_append {w cs : List Char} (hw : ∀ c ∈ w, isXidContinue c = true ∧ c ≠ '\\')
    (h : Delimited cs) : identifierRest 0 (w ++ cs) = w.length := by
  induction w with
  | nil => exact identifierRest_delimited h
  | cons c w ih =>
    obtain ⟨hx, hc⟩ := hw c List.mem_cons_self
    have hh := ih fun d hd => hw d (List.mem_cons_of_mem c hd)
    simp only [List.cons_append, identifierRest, identifierUnit_eq (w ++ cs) _ hc, hx, Bool.true_or,
      if_true, hh, List.length_cons, Nat.add_comm]

lemma identifier_append {c : Char} {w cs : List Char} (hs : isXidStart c = true) (hb : c ≠ '\\')
    (hw : ∀ c ∈ w, isXidContinue c = true ∧ c ≠ '\\') (h : Delimited cs) :
    identifier (c :: w ++ cs) = (c :: w).length := by
  simp only [List.cons_append, identifier, identifierUnit_eq (w ++ cs) _ hb, hs, Bool.true_or,
    if_true, List.drop_succ_cons, List.drop_zero, identifierRest_append hw h, List.length_cons,
    Nat.zero_add, Nat.add_comm]

lemma literal_pos {before : Nat} {cs : List Char} {r : Class × Nat} (h : literal before cs = some r) :
    0 < r.2 := by
  unfold literal at h
  split at h
  · next n hn =>
    obtain rfl := Option.some.inj h
    unfold stringLiteral at hn
    split at hn
    · obtain ⟨m, -, rfl⟩ := Option.map_eq_some_iff.mp hn
      exact Nat.succ_pos _
    · exact nomatch hn
  · obtain ⟨n, hn, rfl⟩ := Option.map_eq_some_iff.mp h
    unfold charLiteral at hn
    split at hn
    · obtain ⟨m, -, rfl⟩ := Option.map_eq_some_iff.mp hn
      exact Nat.succ_pos _
    · exact nomatch hn

lemma read_pos {cs : List Char} {r : Class × Nat} (h : read cs = some r) : 0 < r.2 := by
  unfold read at h
  split at h
  · dsimp only at h
    split_ifs at h
    · exact literal_pos h
    · exact Option.some.inj h ▸ Nat.succ_pos _
  · split at h
    · exact Option.some.inj h ▸ Nat.succ_pos _
    · split at h
      · exact literal_pos h
      · exact literal_pos h
      · split at h
        · exact nomatch h
        · next n hn => exact Option.some.inj h ▸ Nat.pos_of_ne_zero hn

lemma identifier_eq_zero {c : Char} (ho : (isXidStart c || c == '_' || c == '$') = false) (hc : c ≠ '\\')
    (cs : List Char) : identifier (c :: cs) = 0 := by
  simp only [identifier, identifierUnit_eq cs _ hc, ho, Bool.false_eq_true, if_false]

lemma identifier_of_blank {c : Char} (h : isBlank c = true) (cs : List Char) :
    identifier (c :: cs) = 0 := by
  refine identifier_eq_zero ?_ (ne_of_blank h rfl) cs
  simp [isXidStart_of_blank h, ne_of_blank h (d := '_') rfl, ne_of_blank h (d := '$') rfl]

lemma number_eq_zero {c : Char} (hd : c.isDigit = false) (hp : c ≠ '.') (cs : List Char) :
    number (c :: cs) = 0 := by
  have h0 : c ≠ '0' := by
    rintro rfl
    simp at hd
  have hn : digits Char.isDigit (c :: cs) = 0 := by
    rw [digits.eq_def]
    simp [hd]
  have hw : wholeNumber (c :: cs) = (0, false) := by
    unfold wholeNumber
    split
    · next he => exact absurd (List.cons.inj he).1 h0
    · rw [hn]
  have hm : mantissa (c :: cs) = (0, false) := by
    unfold mantissa
    rw [hw]
    dsimp only
    split
    · next he => exact absurd (List.cons.inj he).1 hp
    · rfl
  rw [number, hm]
  rfl

lemma number_of_blank {c : Char} (h : isBlank c = true) (cs : List Char) : number (c :: cs) = 0 :=
  number_eq_zero (isDigit_of_blank h) (ne_of_blank h rfl) cs

lemma mark_of_blank {c : Char} (h : isBlank c = true) (cs : List Char) : mark (c :: cs) = 0 := by
  have hl : longMarks.find? (fun m => m.toList.isPrefixOf (c :: cs)) = none := by
    rw [List.find?_eq_none]
    intro m hm hp
    have hh : ∀ m ∈ longMarks, m.toList.head?.any (fun d => !isBlank d) = true := by decide +kernel
    obtain ⟨t, ht⟩ := List.isPrefixOf_iff_prefix.mp hp
    cases hd : m.toList with
    | nil => simpa [hd] using hh m hm
    | cons d ds =>
      rw [hd, List.cons_append] at ht
      have := hh m hm
      rw [hd, (List.cons.inj ht).1] at this
      simp [h] at this
  have hs : c ∉ shortMarks := by
    intro hm
    have hh : shortMarks.all (fun d => !isBlank d) = true := by decide
    simpa [h] using List.all_eq_true.mp hh c hm
  rw [mark, hl]
  simp [hs]

lemma read_of_blank {c : Char} (h : isBlank c = true) (cs : List Char) : read (c :: cs) = none := by
  unfold read
  rw [identifier_of_blank h, number_of_blank h, mark_of_blank h]
  dsimp only
  split
  · next he => exact absurd (List.cons.inj he).1 (ne_of_blank h rfl)
  · next he => exact absurd (List.cons.inj he).1 (ne_of_blank h rfl)
  · rfl

end Quadrature.C.Lexeme
