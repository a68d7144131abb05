import Quadrature.C.Scan
import Quadrature.Proofs.Lexemes
import Mathlib.Data.List.Chain
import Mathlib.Data.List.Forall2

/-! Identifiers and marks, measured in the texts that they were written in. -/

namespace Quadrature.C.Lexeme

open Text

variable {own : Char → Bool} {w t cs rest : List Char}

lemma hexDigits_append {n : Nat} (h : hexDigits n cs = true) (t : List Char) :
    n ≤ cs.length ∧ hexDigits n (cs ++ t) = true := by
  simp only [hexDigits, Bool.and_eq_true, beq_iff_eq, List.length_take] at h
  have hn : n ≤ cs.length := by omega
  refine ⟨hn, ?_⟩
  rw [hexDigits, List.take_append_of_le_length hn]
  simp [h.2, hn]

lemma identifierUnit_append (ho : own '\\' = false) (h : identifierUnit own cs ≠ 0) (t : List Char) :
    identifierUnit own cs ≤ cs.length ∧ identifierUnit own (cs ++ t) = identifierUnit own cs := by
  cases cs with
  | nil => exact absurd rfl h
  | cons c cs =>
    by_cases hc : c = '\\'
    · subst hc
      unfold identifierUnit at h ⊢
      split at h
      · next _ cs he =>
        obtain rfl := (List.cons.inj he).2
        have hx : hexDigits 4 cs = true := by simpa using h
        obtain ⟨hn, ht⟩ := hexDigits_append hx t
        simp [hx, ht, hn]
      · next _ cs he =>
        obtain rfl := (List.cons.inj he).2
        have hx : hexDigits 8 cs = true := by simpa using h
        obtain ⟨hn, ht⟩ := hexDigits_append hx t
        simp [hx, ht, hn]
      · next _ _ _ he =>
        obtain ⟨rfl, rfl⟩ := List.cons.inj he
        simp [ho] at h
      · next he => exact absurd he (by simp)
    · rw [identifierUnit_eq cs own hc] at h ⊢
      rw [List.cons_append, identifierUnit_eq _ own hc]
      refine ⟨?_, rfl⟩
      split_ifs <;> simp

lemma identifierRest_append_of_eq {k : Nat} (hk : k ≤ w.length) (h : identifierRest k w = w.length)
    (t : List Char) : identifierRest k (w ++ t) = w.length + identifierRest 0 t := by
  induction w generalizing k with
  | nil =>
    obtain rfl : k = 0 := by simpa using hk
    simp
  | cons c w ih =>
    rw [List.length_cons] at hk h ⊢
    cases k with
    | succ k =>
      rw [identifierRest] at h
      rw [List.cons_append, identifierRest, ih (by omega) (by omega)]
      omega
    | zero =>
      rw [identifierRest] at h
      cases hu : identifierUnit (fun c => isXidContinue c || c == '$') (c :: w) with
      | zero => simp [hu] at h
      | succ n =>
        have hne : identifierUnit (fun c => isXidContinue c || c == '$') (c :: w) ≠ 0 := by simp [hu]
        obtain ⟨hn, ha⟩ := identifierUnit_append (by decide) hne t
        rw [hu] at h ha hn
        rw [List.cons_append, identifierRest, ← List.cons_append, ha]
        dsimp only at h ⊢
        rw [ih (by simpa using hn) (by omega)]
        omega

def IsIdentifier (w : List Char) : Prop := w ≠ [] ∧ identifier w = w.length

instance : DecidablePred IsIdentifier := fun w => inferInstanceAs (Decidable (w ≠ [] ∧ _))

lemma IsIdentifier.identifier_append (h : IsIdentifier w) (t : List Char) :
    identifier (w ++ t) = w.length + identifierRest 0 t := by
  obtain ⟨hne, hw⟩ := h
  have hpos := List.length_pos_iff.mpr hne
  rw [identifier] at hw
  cases hu : identifierUnit (fun c => isXidStart c || c == '_' || c == '$') w with
  | zero => simp only [hu] at hw; omega
  | succ n =>
    have hne : identifierUnit (fun c => isXidStart c || c == '_' || c == '$') w ≠ 0 := by simp [hu]
    obtain ⟨hn, ha⟩ := identifierUnit_append (by decide) hne t
    rw [hu] at hn ha
    simp only [hu] at hw
    have hr : identifierRest 0 (w.drop (n + 1)) = (w.drop (n + 1)).length := by
      rw [List.length_drop]
      omega
    rw [identifier, ha]
    dsimp only
    rw [List.drop_append_of_le_length hn, identifierRest_append_of_eq (Nat.zero_le _) hr,
      List.length_drop]
    omega

lemma IsIdentifier.append (h : IsIdentifier w) (ht : identifierRest 0 t = t.length) :
    IsIdentifier (w ++ t) := by
  refine ⟨by simp [h.1], ?_⟩
  rw [h.identifier_append, ht, List.length_append]

lemma isHexDigit_of_blank {d : Char} (h : isBlank d = true) : isHexDigit d = false :=
  forall_blank (P := fun c => isHexDigit c = false) (by decide) h

lemma blank_not_mem_unit {d : Char} (hd : isBlank d = true) (ho : own d = false) :
    d ∉ cs.take (identifierUnit own cs) := by
  have hhex : ∀ {n : Nat} {cs : List Char}, hexDigits n cs = true → d ∉ cs.take n := by
    intro n cs h hm
    simp only [hexDigits, Bool.and_eq_true, List.all_eq_true] at h
    exact absurd (h.2 _ hm) (by simp [isHexDigit_of_blank hd])
  have hmark : ∀ c ∈ ['\\', 'u', 'U'], d ≠ c := by
    intro c hc
    have hall : ∀ c ∈ ['\\', 'u', 'U'], isBlank c = false := forall_mem_of_all (by decide)
    exact ne_of_blank hd (hall c hc)
  unfold identifierUnit
  split
  · split_ifs with h
    · simpa [hmark] using hhex h
    · simp
  · split_ifs with h
    · simpa [hmark] using hhex h
    · simp
  · split_ifs with h
    · intro hm
      obtain rfl : d = _ := by simpa using hm
      simp [ho] at h
    · simp
  · simp

lemma blank_not_mem_drop {k : Nat} {d : Char} (hd : isBlank d = true) (h : identifierRest k w = w.length) :
    d ∉ w.drop k := by
  -- the first `k` characters belong to a unit that has been looked at before
  induction w generalizing k with
  | nil => simp
  | cons c w ih =>
    rw [List.length_cons] at h
    cases k with
    | succ k =>
      rw [identifierRest] at h
      exact ih (by omega)
    | zero =>
      rw [identifierRest] at h
      cases hu : identifierUnit (fun c => isXidContinue c || c == '$') (c :: w) with
      | zero => simp [hu] at h
      | succ n =>
        have hunit : d ∉ (c :: w).take (n + 1) := by
          rw [← hu]
          exact blank_not_mem_unit hd (by simp [isXidContinue_of_blank hd, ne_of_blank hd (d := '$') rfl])
        simp only [hu] at h
        rw [List.drop_zero, ← List.take_append_drop (n + 1) (c :: w), List.mem_append]
        exact not_or.mpr ⟨hunit, ih (by omega)⟩

lemma IsIdentifier.blank_not_mem {d : Char} (h : IsIdentifier w) (hd : isBlank d = true) : d ∉ w := by
  obtain ⟨hne, hw⟩ := h
  have hpos := List.length_pos_iff.mpr hne
  rw [identifier] at hw
  cases hu : identifierUnit (fun c => isXidStart c || c == '_' || c == '$') w with
  | zero => simp only [hu] at hw; omega
  | succ n =>
    have hunit : d ∉ w.take (n + 1) := by
      rw [← hu]
      refine blank_not_mem_unit hd ?_
      simp [isXidStart_of_blank hd, ne_of_blank hd (d := '_') rfl, ne_of_blank hd (d := '$') rfl]
    simp only [hu] at hw
    have hn : n + 1 ≤ w.length := by omega
    have hrest : d ∉ (w.drop (n + 1)).drop 0 := blank_not_mem_drop hd (by rw [List.length_drop]; omega)
    rw [← List.take_append_drop (n + 1) w, List.mem_append]
    exact not_or.mpr ⟨hunit, hrest⟩

lemma IsIdentifier.newline_not_mem (h : IsIdentifier w) : '\n' ∉ w := h.blank_not_mem rfl

lemma isBlank_of_isSpace {c : Char} (h : isSpace c = true) : isBlank c = true := by
  simp only [isSpace, Bool.or_eq_true, beq_iff_eq, Bool.and_eq_true, decide_eq_true_eq] at h
  rcases h with rfl | h
  · decide
  · simp [isBlank, h.1, h.2]

def special : List Char := ['/', '#', '(', '[', '{', ')', ']', '}']

lemma identifier_of_special {c : Char} (h : c ∈ special) (cs : List Char) : identifier (c :: cs) = 0 := by
  have ho : ∀ c ∈ special, (isXidStart c || c == '_' || c == '$') = false ∧ c ≠ '\\' :=
    forall_mem_of_all (by decide)
  exact identifier_eq_zero (ho c h).1 (ho c h).2 cs

lemma lineJoin_of_identifier (h : identifier cs ≠ 0) : lineJoin cs = 0 := by
  have hx : isXidStart '\\' = false := by decide
  unfold lineJoin
  split
  · simp [identifier, identifierUnit, hx] at h
  · simp [identifier, identifierUnit, hx] at h
  · rfl

lemma not_special_of_identifier {c : Char} (h : identifier (c :: cs) ≠ 0) :
    isSpace c = false ∧ c ∉ special := by
  refine ⟨?_, fun hc => h (identifier_of_special hc cs)⟩
  by_contra hc
  exact h (identifier_of_blank (isBlank_of_isSpace (by simpa using hc)) cs)

lemma comment_of_not_special {c : Char} (h : c ∉ special) (cs : List Char) : comment (c :: cs) = none := by
  unfold comment
  split
  · next he => exact absurd (by simp [special, (List.cons.inj he).1]) h
  · next he => exact absurd (by simp [special, (List.cons.inj he).1]) h
  · rfl

/-- A text that does not go on with an identifier or a literal. -/
def Apart (cs : List Char) : Prop :=
  identifierRest 0 cs = 0 ∧ cs.head? ≠ some '"' ∧ cs.head? ≠ some '\''

lemma read_word (h : IsIdentifier w) (hr : Apart rest) : read (w ++ rest) = some (.word, w.length) := by
  have hi : identifier (w ++ rest) = w.length := by rw [h.identifier_append, hr.1, Nat.add_zero]
  obtain ⟨n, hn⟩ := Nat.exists_eq_succ_of_ne_zero (Nat.pos_iff_ne_zero.mp (List.length_pos_iff.mpr h.1))
  unfold read
  rw [hi, hn]
  dsimp only
  rw [← Nat.succ_eq_add_one, ← hn, List.drop_left, if_neg]
  simp [hr.2.1, hr.2.2]

lemma read_mark {c : Char} (hc : c ∈ [',', ';', '*']) (hr : rest.head? ≠ some '=') :
    read (c :: rest) = some (.mark, 1) := by
  have hclass : ∀ c ∈ [',', ';', '*'], (isXidStart c || c == '_' || c == '$') = false ∧ c ≠ '\\' ∧
      c.isDigit = false ∧ c ≠ '.' ∧ c ≠ '"' ∧ c ≠ '\'' := forall_mem_of_all (by decide)
  obtain ⟨hi, hb, hd, hp, hq, hq'⟩ := hclass c hc
  have hl : longMarks.find? (fun m => m.toList.isPrefixOf (c :: rest)) = none := by
    -- of the longer marks only `*=` starts with one of the three
    have hlong : ∀ c ∈ [',', ';', '*'], ∀ m ∈ longMarks, m.toList.head? = some c → m = "*=" :=
      forall_mem_of_all (by decide +kernel)
    rw [List.find?_eq_none]
    intro m hm hpre
    obtain ⟨t, ht⟩ := List.isPrefixOf_iff_prefix.mp hpre
    have hne : m.toList ≠ [] := by
      have hall : ∀ m ∈ longMarks, m.toList ≠ [] := by decide +kernel
      exact hall m hm
    have hh : m.toList.head? = some c := by
      have hp := congrArg List.head? ht
      rwa [List.head?_append_of_ne_nil _ hne] at hp
    obtain rfl := hlong c hc m hm hh
    obtain ⟨rfl, rfl⟩ := List.cons.inj ht
    exact hr rfl
  have hm : mark (c :: rest) = 1 := by
    have hs : ∀ c ∈ [',', ';', '*'], c ∈ shortMarks := forall_mem_of_all (by decide)
    rw [mark, hl]
    simp [hs c hc]
  unfold read
  rw [identifier_eq_zero hi hb, number_eq_zero hd hp, hm]
  dsimp only
  split
  · next he => exact absurd (List.cons.inj he).1 hq
  · next he => exact absurd (List.cons.inj he).1 hq'
  · rfl

end Quadrature.C.Lexeme
