import Mathlib.Tactic.SplitIfs
import Quadrature.Toml.Text

/-! Strings are read back as they were written, whichever of the four forms was chosen. -/

namespace Quadrature.Toml

variable {c : Char} {cs w r rest : List Char} {fuel : Nat} {long : Bool}

inductive Coded (long : Bool) (c : Char) : List Char → Prop
  | plain : isPlain c = true → c ≠ '"' → c ≠ '\\' → Coded long c [c]
  | newline : long = true → c = '\n' → Coded long c [c]
  | escaped {e : List Char} : (∀ r, escape? (e ++ r) = some (c, r)) → Coded long c ('\\' :: e)

lemma hex?_control :
    ∀ n < 128, hex? ['0', '0', Nat.digitChar (n / 16), Char.toUpper (Nat.digitChar (n % 16))] = some n := by
  decide +kernel

lemma scalar?_toNat (c : Char) : scalar? c.toNat = some c := by
  have hv : c.toNat.isValidChar := c.valid
  rw [scalar?, if_pos hv, Char.ofNat_toNat]

lemma escape?_control (h : c.toNat < 128) (r : List Char) :
    escape? ('u' :: '0' :: '0' :: Nat.digitChar (c.toNat / 16) ::
      Char.toUpper (Nat.digitChar (c.toNat % 16)) :: r) = some (c, r) := by
  simp [escape?, hex?_control c.toNat h, scalar?_toNat]

lemma coded_basicChar (long : Bool) (c : Char) : Coded long c (basicChar long c) := by
  rw [basicChar]
  split_ifs with hn hl ht hr hq hb hback hform hcontrol
  · subst hn
    exact .newline hl rfl
  · subst hn
    exact .escaped fun _ => rfl
  · subst ht
    exact .escaped fun _ => rfl
  · subst hr
    exact .escaped fun _ => rfl
  · subst hq
    exact .escaped fun _ => rfl
  · subst hb
    exact .escaped fun _ => rfl
  · obtain rfl : c = Char.ofNat 8 := by rw [← hback, Char.ofNat_toNat]
    exact .escaped fun _ => rfl
  · obtain rfl : c = Char.ofNat 12 := by rw [← hform, Char.ofNat_toNat]
    exact .escaped fun _ => rfl
  · apply Coded.escaped
    have hlt : c.toNat < 128 := by
      simp only [Bool.or_eq_true, decide_eq_true_eq] at hcontrol
      omega
    exact escape?_control hlt
  · refine .plain ?_ hq hb
    simp only [Bool.or_eq_true, decide_eq_true_eq, not_or, Nat.not_lt] at hcontrol
    simp [isPlain, hcontrol]

lemma Coded.exists_cons (h : Coded long c w) : ∃ d t, w = d :: t ∧ d ≠ '"' := by
  cases h with
  | plain _ hq _ => exact ⟨c, [], rfl, hq⟩
  | newline _ hn => exact ⟨c, [], rfl, by rw [hn]; decide⟩
  | escaped => exact ⟨_, _, rfl, by decide⟩

lemma length_flatMap_cons (h : ((c :: cs).flatMap (basicChar long) ++ r).length < fuel + 1) :
    (cs.flatMap (basicChar long) ++ r).length < fuel := by
  obtain ⟨d, t, hw, -⟩ := (coded_basicChar long c).exists_cons
  rw [List.flatMap_cons, hw, List.append_assoc, List.length_append, List.length_cons] at h
  omega

lemma basic?_coded (h : Coded false c w) (fuel : Nat) (r : List Char) :
    basic? (fuel + 1) (w ++ r) = more c (basic? fuel r) := by
  cases h with
  | plain hp hq hb => simp [basic?, hp]
  | newline hl => cases hl
  | escaped he => simp [basic?, he]

lemma basic?_body (h : (cs.flatMap (basicChar false) ++ '"' :: rest).length < fuel) :
    basic? fuel (cs.flatMap (basicChar false) ++ '"' :: rest) = some (cs, rest) := by
  induction cs generalizing fuel with
  | nil =>
    obtain ⟨fuel, rfl⟩ := Nat.exists_eq_succ_of_ne_zero (Nat.ne_zero_of_lt h)
    rfl
  | cons c cs ih =>
    obtain ⟨fuel, rfl⟩ := Nat.exists_eq_succ_of_ne_zero (Nat.ne_zero_of_lt h)
    rw [List.flatMap_cons, List.append_assoc, basic?_coded (coded_basicChar false c), ih (length_flatMap_cons h)]
    rfl

lemma longBasic?_coded (h : Coded true c w) (fuel : Nat) (r : List Char) :
    longBasic? (fuel + 1) (w ++ r) = more c (longBasic? fuel r) := by
  cases h with
  | plain hp hq hb =>
    have hr : c ≠ '\r' := by
      rintro rfl
      cases hp
    simp [longBasic?, hp, hq, hr]
  | newline _ hn =>
    subst hn
    simp [longBasic?]
  | escaped he => simp [longBasic?, he]

lemma longBasic?_body (hr : rest.head? ≠ some '"') (cs : List Char)
    (h : (cs.flatMap (basicChar true) ++ '"' :: '"' :: '"' :: rest).length < fuel) :
    longBasic? fuel (cs.flatMap (basicChar true) ++ '"' :: '"' :: '"' :: rest) = some (cs, rest) := by
  induction cs generalizing fuel with
  | nil =>
    obtain ⟨fuel, rfl⟩ := Nat.exists_eq_succ_of_ne_zero (Nat.ne_zero_of_lt h)
    cases rest with
    | nil => rfl
    | cons d rest =>
      have hd : d ≠ '"' := by simpa using hr
      simp [longBasic?, hd]
  | cons c cs ih =>
    obtain ⟨fuel, rfl⟩ := Nat.exists_eq_succ_of_ne_zero (Nat.ne_zero_of_lt h)
    rw [List.flatMap_cons, List.append_assoc, longBasic?_coded (coded_basicChar true c),
      ih (length_flatMap_cons h)]
    rfl

structure LiteralText (cs : List Char) : Prop where
  plain : ∀ c ∈ cs, isPlain c = true ∨ c = '\n'
  noTriple : hasTripleQuote cs = false
  last : cs.getLast? ≠ some '\''
  nonempty : cs ≠ []

lemma isPlain_of_isControl (h : isControl c = false) : isPlain c = true ∨ c = '\n' := by
  simp only [isControl, isPlain] at h ⊢
  grind

lemma literalText_of_wantsLiteral (h : wantsLiteral cs = true) : LiteralText cs := by
  simp only [wantsLiteral, Bool.and_eq_true, Bool.or_eq_true, Bool.not_eq_true', decide_eq_true_eq,
    List.contains_iff_mem] at h
  obtain ⟨⟨⟨hquoted, hcontrol⟩, ht⟩, hl⟩ := h
  refine ⟨fun c hc => isPlain_of_isControl ?_, ht, hl, ?_⟩
  · exact Bool.eq_false_iff.mpr (List.any_eq_false.mp hcontrol c hc)
  · exact hquoted.elim List.ne_nil_of_mem List.ne_nil_of_mem

lemma LiteralText.exists_cons (h : LiteralText cs) (hline : '\n' ∉ cs) :
    ∃ c t, cs = c :: t ∧ isPlain c = true := by
  obtain ⟨c, t, rfl⟩ := List.exists_cons_of_ne_nil h.nonempty
  refine ⟨c, t, rfl, (h.plain c List.mem_cons_self).resolve_right ?_⟩
  rintro rfl
  exact hline List.mem_cons_self

lemma literal?_body (rest : List Char) (h : ∀ c ∈ cs, isPlain c = true ∧ c ≠ '\'') :
    literal? (cs ++ '\'' :: rest) = some (cs, rest) := by
  induction cs with
  | nil => rfl
  | cons c cs ih =>
    obtain ⟨⟨hp, hq⟩, hcs⟩ := List.forall_mem_cons.mp h
    rw [List.cons_append, literal?, if_neg hq, if_pos hp, ih hcs]
    rfl

lemma longLiteral?_cons (hp : isPlain c = true ∨ c = '\n')
    (hq : ∀ t, c = '\'' → r ≠ '\'' :: '\'' :: t) (fuel : Nat) :
    longLiteral? (fuel + 1) (c :: r) = more c (longLiteral? fuel r) := by
  have hr : c ≠ '\r' := by
    rintro rfl
    rcases hp with hp | hp <;> cases hp
  rw [longLiteral?, if_pos (by simpa using hp)]
  · exact fun t => hq ('\'' :: '\'' :: t)
  · exact fun t => hq ('\'' :: t)
  · exact hq
  · exact fun _ h => absurd h hr

lemma append_ne_quotes (h : hasTripleQuote (c :: cs) = false) (hl : (c :: cs).getLast? ≠ some '\'')
    (rest t : List Char) (hc : c = '\'') : cs ++ rest ≠ '\'' :: '\'' :: t := by
  subst hc
  rcases cs with _ | ⟨d, _ | ⟨e, cs⟩⟩
  · exact absurd rfl hl
  · intro heq
    obtain ⟨rfl, -⟩ := List.cons.inj heq
    exact hl rfl
  · intro heq
    obtain ⟨rfl, htail⟩ := List.cons.inj heq
    obtain ⟨rfl, -⟩ := List.cons.inj htail
    cases h

lemma hasTripleQuote_tail (h : hasTripleQuote (c :: cs) = false) : hasTripleQuote cs = false := by
  rw [hasTripleQuote] at h
  · exact h
  · rintro t rfl rfl
    cases h

lemma longLiteral?_body (hp : ∀ c ∈ cs, isPlain c = true ∨ c = '\n') (ht : hasTripleQuote cs = false)
    (hl : cs.getLast? ≠ some '\'') (hr : rest.head? ≠ some '\'')
    (h : (cs ++ '\'' :: '\'' :: '\'' :: rest).length < fuel) :
    longLiteral? fuel (cs ++ '\'' :: '\'' :: '\'' :: rest) = some (cs, rest) := by
  induction cs generalizing fuel with
  | nil =>
    obtain ⟨fuel, rfl⟩ := Nat.exists_eq_succ_of_ne_zero (Nat.ne_zero_of_lt h)
    cases rest with
    | nil => rfl
    | cons d rest =>
      have hd : d ≠ '\'' := by simpa using hr
      simp [longLiteral?, hd]
  | cons c cs ih =>
    obtain ⟨fuel, rfl⟩ := Nat.exists_eq_succ_of_ne_zero (Nat.ne_zero_of_lt h)
    have hlast : cs.getLast? ≠ some '\'' := by
      intro hcs
      exact hl (by rw [List.getLast?_cons, hcs]; rfl)
    obtain ⟨hc, hcs⟩ := List.forall_mem_cons.mp hp
    rw [List.cons_append, longLiteral?_cons hc (append_ne_quotes ht hl _),
      ih hcs (hasTripleQuote_tail ht) hlast (Nat.lt_of_succ_lt_succ h)]
    rfl

lemma string?_of_basic (h : ∀ t, r ≠ '"' :: '"' :: t)
    (hread : ∀ fuel, r.length < fuel → basic? fuel r = some (cs, rest)) :
    string? ('"' :: r) = some (String.ofList cs, rest) := by
  have hr := hread (r.length + 1 + 1) (by omega)
  simp [string?, hr]

lemma string?_of_longBasic (hread : ∀ fuel, r.length < fuel → longBasic? fuel r = some (cs, rest)) :
    string? ('"' :: '"' :: '"' :: '\n' :: r) = some (String.ofList cs, rest) := by
  have hr := hread (r.length + 1 + 1 + 1 + 1 + 1) (by omega)
  simp [string?, afterOpening, newline?, hr]

lemma string?_of_literal (h : ∀ t, r ≠ '\'' :: '\'' :: t) (hread : literal? r = some (cs, rest)) :
    string? ('\'' :: r) = some (String.ofList cs, rest) := by
  simp [string?, hread]

lemma string?_of_longLiteral (ho : afterOpening r = w)
    (hread : ∀ fuel, r.length < fuel → longLiteral? fuel w = some (cs, rest)) :
    string? ('\'' :: '\'' :: '\'' :: r) = some (String.ofList cs, rest) := by
  have hr := hread (r.length + 1 + 1 + 1 + 1) (by omega)
  simp [string?, ho, hr]

lemma flatMap_ne_quotes (hr : rest.head? ≠ some '"') (cs t : List Char) :
    cs.flatMap (basicChar false) ++ '"' :: rest ≠ '"' :: '"' :: t := by
  intro heq
  cases cs with
  | nil =>
    obtain ⟨-, rfl⟩ := List.cons.inj heq
    exact hr rfl
  | cons c cs =>
    obtain ⟨d, w, hw, hd⟩ := (coded_basicChar false c).exists_cons
    rw [List.flatMap_cons, hw] at heq
    exact hd (List.cons.inj heq).1

lemma afterOpening_cons (h : isPlain c = true) : afterOpening (c :: r) = c :: r := by
  have hn : c ≠ '\n' := by
    rintro rfl
    cases h
  have hr : c ≠ '\r' := by
    rintro rfl
    cases h
  simp [afterOpening, newline?, hn, hr]

/-- A string is read back as it was written, whatever follows it but a quote. -/
theorem string?_written (s : String) (hd : rest.head? ≠ some '"') (hs : rest.head? ≠ some '\'') :
    string? ((written s).toList ++ rest) = some (s, rest) := by
  obtain ⟨cs, rfl⟩ : ∃ cs, s = String.ofList cs := ⟨s.toList, String.ofList_toList.symm⟩
  simp only [written, String.toList_ofList]
  split_ifs with hliteral hline hquote hline
  · have ht := literalText_of_wantsLiteral hliteral
    have hread := string?_of_longLiteral (r := '\n' :: (cs ++ '\'' :: '\'' :: '\'' :: rest)) rfl fun fuel hf =>
      longLiteral?_body ht.plain ht.noTriple ht.last hs (Nat.lt_of_succ_lt hf)
    simpa using hread
  · have ht := literalText_of_wantsLiteral hliteral
    rw [List.contains_iff_mem] at hline
    obtain ⟨c, t, rfl, hc⟩ := ht.exists_cons hline
    have hread := string?_of_longLiteral (afterOpening_cons hc) fun fuel hf =>
      longLiteral?_body ht.plain ht.noTriple ht.last hs hf
    simpa using hread
  · have ht := literalText_of_wantsLiteral hliteral
    rw [List.contains_iff_mem] at hline hquote
    obtain ⟨c, t, rfl, hc⟩ := ht.exists_cons hline
    have hplain : ∀ d ∈ c :: t, isPlain d = true ∧ d ≠ '\'' := by
      intro d hmem
      refine ⟨(ht.plain d hmem).resolve_right ?_, ?_⟩
      · rintro rfl
        exact hline hmem
      · rintro rfl
        exact hquote hmem
    have hopen : ∀ u, c :: t ++ '\'' :: rest ≠ '\'' :: '\'' :: u := by
      intro u heq
      exact (hplain c List.mem_cons_self).2 (List.cons.inj heq).1
    simpa using string?_of_literal hopen (literal?_body rest hplain)
  · rw [hline]
    have hread := string?_of_longBasic fun fuel hf => longBasic?_body hd cs hf
    simpa using hread
  · rw [Bool.eq_false_iff.mpr hline]
    have hread := string?_of_basic (flatMap_ne_quotes hd cs) fun fuel hf => basic?_body hf
    simpa using hread

end Quadrature.Toml
