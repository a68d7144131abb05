import Quadrature.Proofs.IntegralNames
import Quadrature.Proofs.LineCuts

/-! Include guards. The letters and digits of a header's name make up its guard, so that there is a guard as soon
as the name has one of them, and making the guard of a guard changes nothing. -/

namespace Quadrature

namespace Identifier

lemma isLetter_eq (c : Char) : isLetter c = c.isAlpha := by
  have halpha : c.isAlpha = (decide ('A' ≤ c ∧ c ≤ 'Z') || ('a' ≤ c && c ≤ 'z')) := rfl
  rw [halpha, isLetter, Bool.decide_and, Bool.or_comm]

lemma isDigit_eq (c : Char) : isDigit c = c.isDigit := rfl

lemma isWordChar_iff {c : Char} : isWordChar c = true ↔ c.isAlphanum = true ∨ c = '_' := by
  rw [isWordChar, isLetter_eq, Bool.or_eq_true, beq_iff_eq]
  rfl

lemma check_eq_ok_iff_ascii {s : String} :
    check s = .ok () ↔
      ∃ c cs, s.toList = c :: cs ∧ c.isAlpha = true ∧ ∀ d ∈ cs, d.isAlphanum = true ∨ d = '_' := by
  rw [check_eq_ok_iff]
  simp only [IsName, isLetter_eq, isWordChar_iff]

end Identifier

def IsGuardChar (c : Char) : Prop := c.isUpper = true ∨ c.isDigit = true ∨ c = '_'

instance : DecidablePred IsGuardChar := fun c =>
  inferInstanceAs (Decidable (c.isUpper = true ∨ c.isDigit = true ∨ c = '_'))

def IsGuard (s : String) : Prop :=
  ∃ c cs, s.toList = c :: cs ∧ c.isUpper = true ∧ ∀ d ∈ cs, IsGuardChar d

variable {c : Char} {cs : List Char} {s : String}

lemma IsGuardChar.isWordChar (h : IsGuardChar c) : Identifier.isWordChar c = true := by
  rw [Identifier.isWordChar_iff]
  show (c.isUpper || c.isLower || c.isDigit) = true ∨ c = '_'
  rcases h with h | h | h <;> simp [h]

lemma IsGuard.isName (h : IsGuard s) : Identifier.IsName s := by
  obtain ⟨c, cs, hs, hc, hcs⟩ := h
  refine ⟨c, cs, hs, ?_, fun d hd => (hcs d hd).isWordChar⟩
  rw [Identifier.isLetter_eq]
  show (c.isUpper || c.isLower) = true
  rw [hc, Bool.true_or]

lemma guardChar_of_isAlphanum (h : c.isAlphanum = true) :
    (guardChar c).isUpper = true ∨ (guardChar c).isDigit = true :=
  Identifier.forall_wordChar
    (P := fun c => c.isAlphanum = true → (guardChar c).isUpper = true ∨ (guardChar c).isDigit = true)
    (by decide +kernel) (Identifier.isWordChar_iff.mpr (.inl h)) h

lemma guardChar_of_not_isAlphanum (h : c.isAlphanum = false) : guardChar c = '_' := by
  have hc : (Identifier.isLetter c || Identifier.isDigit c) = false := by
    rw [Identifier.isLetter_eq, Identifier.isDigit_eq]
    exact h
  rw [guardChar, hc, if_neg Bool.false_ne_true]

lemma guardChar_eq_self (h : IsGuardChar c) : guardChar c = c :=
  Identifier.forall_wordChar (P := fun c => IsGuardChar c → guardChar c = c) (by decide +kernel) h.isWordChar h

lemma isGuardChar_guardChar (c : Char) : IsGuardChar (guardChar c) := by
  cases h : c.isAlphanum with
  | true => exact (guardChar_of_isAlphanum h).imp_right .inl
  | false => exact .inr (.inr (guardChar_of_not_isAlphanum h))

lemma dropWhile_guardChars (cs : List Char) :
    (∀ c ∈ cs, c.isAlphanum = false) ∧ (cs.map guardChar).dropWhile (· = '_') = [] ∨
      (∃ c ∈ cs, c.isAlphanum = true) ∧ ∃ d ds, (cs.map guardChar).dropWhile (· = '_') = d :: ds ∧
        (d.isUpper = true ∨ d.isDigit = true) ∧ ∀ x ∈ ds, IsGuardChar x := by
  induction cs with
  | nil => exact .inl ⟨by simp, rfl⟩
  | cons c cs ih =>
    cases hc : c.isAlphanum with
    | true =>
      have hg := guardChar_of_isAlphanum hc
      have hne : guardChar c ≠ '_' := by
        intro he
        rw [he] at hg
        revert hg
        decide
      refine .inr ⟨⟨c, List.mem_cons_self, hc⟩, guardChar c, cs.map guardChar, ?_, hg, ?_⟩
      · rw [List.map_cons, List.dropWhile_cons_of_neg (by simpa using hne)]
      · intro x hx
        obtain ⟨d, -, rfl⟩ := List.mem_map.mp hx
        exact isGuardChar_guardChar d
    | false =>
      have hdrop : ((c :: cs).map guardChar).dropWhile (· = '_') = (cs.map guardChar).dropWhile (· = '_') := by
        rw [List.map_cons, List.dropWhile_cons_of_pos (by simp [guardChar_of_not_isAlphanum hc])]
      rw [hdrop]
      refine ih.imp ?_ ?_
      · rintro ⟨hall, h⟩
        exact ⟨List.forall_mem_cons.mpr ⟨hc, hall⟩, h⟩
      · rintro ⟨⟨d, hd, hda⟩, h⟩
        exact ⟨⟨d, List.mem_cons_of_mem c hd, hda⟩, h⟩

lemma isDigit_eq_false_of_isUpper (h : c.isUpper = true) : c.isDigit = false := by
  have hA : 65 ≤ c.toNat := (of_decide_eq_true h).1
  simp only [Char.isDigit, Bool.and_eq_false_iff, decide_eq_false_iff_not]
  exact .inr fun h9 : c.toNat ≤ 57 => by omega

lemma includeGuard_cases (s : String) :
    (∀ c ∈ s.toList, c.isAlphanum = false) ∧ includeGuard s = "" ∨
      (∃ c ∈ s.toList, c.isAlphanum = true) ∧ IsGuard (includeGuard s) := by
  rcases dropWhile_guardChars s.toList with ⟨hnone, h⟩ | ⟨hsome, d, ds, h, hd, hds⟩
  · exact .inl ⟨hnone, by rw [includeGuard, h]⟩
  · refine .inr ⟨hsome, ?_⟩
    rw [includeGuard, h]
    dsimp only
    split_ifs with hdigit
    · refine ⟨'H', '_' :: d :: ds, String.toList_ofList, by decide, ?_⟩
      exact List.forall_mem_cons.mpr ⟨.inr (.inr rfl), List.forall_mem_cons.mpr ⟨hd.imp_right .inl, hds⟩⟩
    · exact ⟨d, ds, String.toList_ofList, hd.resolve_right hdigit, hds⟩

lemma includeGuard_eq_self (h : IsGuard s) : includeGuard s = s := by
  obtain ⟨c, cs, hs, hc, hcs⟩ := h
  have hall : ∀ d ∈ c :: cs, IsGuardChar d := List.forall_mem_cons.mpr ⟨.inl hc, hcs⟩
  have hmap : (c :: cs).map guardChar = c :: cs :=
    (List.map_congr_left fun d hd => guardChar_eq_self (hall d hd)).trans (List.map_id _)
  have hne : c ≠ '_' := by
    rintro rfl
    revert hc
    decide
  have hdrop : ((c :: cs).map guardChar).dropWhile (· = '_') = c :: cs := by
    rw [hmap, List.dropWhile_cons_of_neg (by simpa using hne)]
  rw [includeGuard, hs, hdrop]
  dsimp only
  rw [Identifier.isDigit_eq, isDigit_eq_false_of_isUpper hc, if_neg Bool.false_ne_true, ← hs, String.ofList_toList]

lemma isBlank_of_isAlphanum (h : c.isAlphanum = true) : Text.isBlank c = false := by
  by_contra hb
  have hn := Text.forall_blank (P := fun c => c.isAlphanum = false) (by decide) (Bool.not_eq_false _ ▸ hb)
  rw [h] at hn
  exact absurd hn (by decide)

namespace GenerationOptions

lemma make_cases (s : String) :
    (∃ c ∈ s.toList, c.isAlphanum = true) ∧
        make s = .ok { headerName := s, guard := includeGuard s, calls := defaultCalls, banner := none } ∧
        IsGuard (includeGuard s) ∨
      (¬ ∃ c ∈ s.toList, c.isAlphanum = true) ∧ ∃ f, make s = .error f ∧ f.kind = .validation := by
  rcases includeGuard_cases s with ⟨hnone, h⟩ | ⟨⟨c, hc, hca⟩, h⟩
  · refine .inr ⟨by simpa using hnone, ?_⟩
    rw [make]
    split_ifs
    · exact ⟨_, rfl, rfl⟩
    · exact ⟨.identifierEmpty, by rw [h]; rfl, rfl⟩
  · have htrim : Text.trim s ≠ "" := by
      intro he
      exact Bool.false_ne_true ((isBlank_of_isAlphanum hca).symm.trans (Text.trim_eq_empty_iff.mp he c hc))
    refine .inl ⟨⟨c, hc, hca⟩, ?_, h⟩
    rw [make, if_neg htrim]
    dsimp only
    rw [Identifier.check_eq_ok_iff.mpr h.isName]

end GenerationOptions

open GenerationOptions

/-- A header can be given options exactly if its name has a letter or a digit of ASCII. Its guard then is an
identifier in upper case, and its own guard. -/
theorem header_options_exist_iff (s : String) :
    ((∃ o, GenerationOptions.make s = .ok o) ↔ ∃ c ∈ s.toList, c.isAlphanum = true) ∧
    (∀ o, GenerationOptions.make s = .ok o →
      o = { headerName := s, guard := includeGuard s, calls := defaultCalls, banner := none } ∧
      Identifier.check o.guard = .ok () ∧
      (∀ c ∈ o.guard.toList, c.isUpper = true ∨ c.isDigit = true ∨ c = '_') ∧
      includeGuard o.guard = o.guard) ∧
    (∀ f, GenerationOptions.make s = .error f → f.kind = .validation) ∧
    ∀ t, Identifier.check t = .ok () ↔
      ∃ c cs, t.toList = c :: cs ∧ c.isAlpha = true ∧ ∀ d ∈ cs, d.isAlphanum = true ∨ d = '_' := by
  rcases make_cases s with ⟨hsome, hmake, hguard⟩ | ⟨hnone, f, hmake, hkind⟩
  · refine ⟨iff_of_true ⟨_, hmake⟩ hsome, fun o ho => ?_, fun f hf => ?_, fun _ => Identifier.check_eq_ok_iff_ascii⟩
    · obtain rfl := Except.ok.inj (ho.symm.trans hmake)
      refine ⟨rfl, Identifier.check_eq_ok_iff.mpr hguard.isName, ?_, includeGuard_eq_self hguard⟩
      obtain ⟨c, cs, hs, hc, hcs⟩ := hguard
      rw [hs]
      exact List.forall_mem_cons.mpr ⟨.inl hc, hcs⟩
    · rw [hmake] at hf
      cases hf
  · refine ⟨iff_of_false ?_ hnone, fun o ho => ?_, fun g hg => ?_, fun _ => Identifier.check_eq_ok_iff_ascii⟩
    · rintro ⟨o, ho⟩
      cases hmake.symm.trans ho
    · rw [hmake] at ho
      cases ho
    · obtain rfl := Except.error.inj (hmake.symm.trans hg)
      exact hkind

theorem header_options_exist_for_digit_first :
    (∃ o, GenerationOptions.make "../2d.h" = .ok o ∧ o.guard = "H_2D_H" ∧ Identifier.check o.guard = .ok () ∧
      includeGuard o.guard = o.guard) ∧
    ∃ f, GenerationOptions.make "_é" = .error f ∧ f.kind = .validation := by
  obtain ⟨hiff, hok, -⟩ := header_options_exist_iff "../2d.h"
  obtain ⟨o, ho⟩ := hiff.mpr ⟨'2', by decide, by decide⟩
  obtain ⟨rfl, hcheck, -, hself⟩ := hok o ho
  refine ⟨⟨_, ho, by decide, hcheck, hself⟩, ?_⟩
  have hnone : ∀ c ∈ "_é".toList, c.isAlphanum = false := Text.forall_mem_of_all (by decide)
  cases hmake : GenerationOptions.make "_é" with
  | ok o =>
    obtain ⟨c, hc, ha⟩ := (header_options_exist_iff "_é").1.mp ⟨o, hmake⟩
    exact absurd (ha.symm.trans (hnone c hc)) (by decide)
  | error f => exact ⟨f, rfl, (header_options_exist_iff "_é").2.2.1 f hmake⟩

end Quadrature
