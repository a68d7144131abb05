import Quadrature.Proofs.DefinitionLookahead

/-! The conditions of directives are measured without what stands behind whole lines. -/

namespace Quadrature.C.Directive

open Lexeme

variable {cs u : List Char} {n : Nat}

lemma lineBlanks_eq (k : Nat) (cs : List Char) :
    lineBlanks k cs = blanksBy (fun c => isSpace c && c != '\n') k cs := by
  induction k generalizing cs with
  | zero => rfl
  | succ k ih =>
    have hk : lineBlanks k = blanksBy (fun c => isSpace c && c != '\n') k := funext ih
    rewrite [lineBlanks, blanksBy, hk]
    rfl

lemma lineBlanks_hash (hu : Unclosed ('#' :: u)) (h : Ended cs) :
    lineBlanks (cs ++ '#' :: u).length (cs ++ '#' :: u) = lineBlanks cs.length cs := by
  rw [lineBlanks_eq, lineBlanks_eq]
  exact blanksBy_hash (by decide) hu h (Nat.le_refl _) (by simp)

lemma lineBlanks_le (k : Nat) (cs : List Char) : lineBlanks k cs ≤ cs.length := by
  rw [lineBlanks_eq]
  exact blanksBy_le _ k cs

/-! ## Conditions -/

lemma definedTest_paren {rest : List Char} (hd : cs.drop (skip cs) = '(' :: rest) :
    definedTest cs = (named rest).bind fun n =>
      if (rest.drop (n + skip (rest.drop n))).head? == some ')' then
        some (skip cs + 1 + n + skip (rest.drop n) + 1) else none := by
  unfold definedTest
  dsimp only
  split
  · next rest' he =>
    obtain rfl : rest = rest' := by simpa using hd.symm.trans he
    cases named rest <;> rfl
  · next he => exact absurd hd (he rest)

lemma definedTest_plain (hd : (cs.drop (skip cs)).head? ≠ some '(') : definedTest cs = named cs := by
  unfold definedTest
  dsimp only
  split
  · next he => simp [he] at hd
  · rfl

lemma definedTest_hash (hu : Unclosed ('#' :: u)) (h : Ended cs) (hn : definedTest cs = some n) :
    n ≤ cs.length ∧ definedTest (cs ++ '#' :: u) = some n := by
  have hs := skip_le cs
  have hlen : (cs.drop (skip cs)).length = cs.length - skip cs := List.length_drop
  have hrest := h.drop (skip cs)
  have hd : (cs ++ '#' :: u).drop (skip (cs ++ '#' :: u)) = cs.drop (skip cs) ++ '#' :: u := by
    rw [skip_hash hu h, List.drop_append_of_le_length hs]
  by_cases hc : (cs.drop (skip cs)).head? = some '('
  · obtain ⟨rest, hp⟩ := List.head?_eq_some_iff.mp hc
    rw [hp] at hrest
    rw [hp, List.length_cons] at hlen
    rw [definedTest_paren hp] at hn
    obtain ⟨i, hi, hn⟩ := Option.bind_eq_some_iff.mp hn
    have hle := named_le hi
    have hb := skip_le (rest.drop i)
    rw [List.length_drop] at hb
    rw [definedTest_paren (hd.trans (by rw [hp, List.cons_append])), named_hash hu hrest.tail, hi,
      Option.bind_some, List.drop_append_of_le_length hle, skip_hash hu (hrest.tail.drop i), skip_hash hu h,
      List.drop_append_of_le_length (by omega), head?_hash (by decide)]
    refine ⟨?_, hn⟩
    split_ifs at hn with hh
    have hlt : i + skip (rest.drop i) < rest.length := by
      by_contra hge
      rw [List.drop_eq_nil_of_le (by omega)] at hh
      exact nomatch hh
    obtain rfl := Option.some.inj hn
    omega
  · rw [definedTest_plain hc] at hn
    rw [definedTest_plain, named_hash hu h]
    · exact ⟨named_le hn, hn⟩
    · rw [hd]
      cases hcs : cs.drop (skip cs) with
      | nil => simp
      | cons c rest => simpa [hcs] using hc

/-- What an operand of a condition leads to; `go` reads on behind some characters. -/
def operandStep (go : Nat → Want → List Bool → Option Nat) (stack : List Bool) (rest : List Char) : Option Nat :=
  match rest with
  | [] => none
  | c :: _ =>
    if c = '(' then go 1 .operand (false :: stack)
    else if c = '!' || c = '~' || c = '-' || c = '+' then go 1 .operand stack
    else match read rest with
      | some (.number, n) => go n (.operation false) stack
      | some (.character, n) => go n (.operation false) stack
      | some (.word, n) =>
        if String.ofList (rest.take n) == "defined" then
          (definedTest (rest.drop n)).bind fun m => go (n + m) (.operation false) stack
        else go n (.operation true) stack
      | _ => none

def operationStep (go : Nat → Want → List Bool → Option Nat) (gap : Nat) (callable : Bool) (stack : List Bool)
    (rest : List Char) : Option Nat :=
  match rest with
  | [] => none
  | c :: tail =>
    if c = '\n' && stack.isEmpty then some (gap + 1)
    else if c = '(' && callable then
      if (tail.drop (skip tail)).head? == some ')' then go (skip tail + 2) (.operation false) stack
      else go 1 .operand (true :: stack)
    else if c = ')' then
      match stack with
      | [] => none
      | _ :: stack' => go 1 (.operation false) stack'
    else if c = ',' then
      match stack with
      | true :: _ => go 1 .operand stack
      | _ => none
    else (binaryOperators.find? (fun o => o.toList.isPrefixOf rest)).bind fun o => go o.length .operand stack

def goOn (k gap : Nat) (rest : List Char) (n : Nat) (want : Want) (stack : List Bool) : Option Nat :=
  (condition k want stack (rest.drop n)).map (· + (gap + n))

lemma condition_operand (k : Nat) (stack : List Bool) (cs : List Char) :
    condition (k + 1) .operand stack cs =
      operandStep (goOn k (skip cs) (cs.drop (skip cs))) stack (cs.drop (skip cs)) := by
  have hgap : (if Want.operand ≠ .operand ∧ stack.isEmpty then lineBlanks cs.length cs else skip cs) = skip cs :=
    if_neg (by simp)
  rw [condition.eq_def]
  dsimp only
  rw [hgap]
  simp only [operandStep, goOn]
  cases cs.drop (skip cs) with
  | nil => rfl
  | cons c rest =>
    dsimp only
    by_cases hp : c = '('
    · rw [if_pos hp, if_pos hp]
    rw [if_neg hp, if_neg hp]
    by_cases hs : (c = '!' || c = '~' || c = '-' || c = '+') = true
    · rw [if_pos hs, if_pos hs]
    rw [if_neg hs, if_neg hs]
    rcases read (c :: rest) with _ | ⟨sort, n⟩
    · rfl
    cases sort with
    | word =>
      dsimp only
      split_ifs
      · cases definedTest (List.drop n (c :: rest)) <;> rfl
      · rfl
    | _ => rfl

lemma condition_operation (k : Nat) (callable : Bool) (stack : List Bool) (cs : List Char) :
    condition (k + 1) (.operation callable) stack cs =
      let gap := if stack.isEmpty then lineBlanks cs.length cs else skip cs
      operationStep (goOn k gap (cs.drop gap)) gap callable stack (cs.drop gap) := by
  have hgap : (if Want.operation callable ≠ .operand ∧ stack.isEmpty then lineBlanks cs.length cs else skip cs) =
      if stack.isEmpty then lineBlanks cs.length cs else skip cs := by simp
  rw [condition.eq_def]
  dsimp only
  rw [hgap]
  generalize (if stack.isEmpty = true then lineBlanks cs.length cs else skip cs) = gap
  simp only [operationStep, goOn]
  cases cs.drop gap with
  | nil => rfl
  | cons c rest =>
    dsimp only
    cases binaryOperators.find? (fun o => o.toList.isPrefixOf (c :: rest)) <;> rfl

variable {go go' : Nat → Want → List Bool → Option Nat} {gap j : Nat} {stack : List Bool}

lemma operandStep_hash (hu : Unclosed ('#' :: u)) (h : Ended cs)
    (hgo : ∀ {i want stack j}, i ≤ cs.length → go i want stack = some j →
      j ≤ gap + cs.length ∧ go' i want stack = some j)
    (hj : operandStep go stack cs = some j) :
    j ≤ gap + cs.length ∧ operandStep go' stack (cs ++ '#' :: u) = some j := by
  cases cs with
  | nil => exact nomatch hj
  | cons c cs =>
    have hone : 1 ≤ (c :: cs).length := Nat.succ_le_succ (Nat.zero_le _)
    simp only [operandStep] at hj
    rw [List.cons_append, operandStep]
    split_ifs at hj ⊢
    · exact hgo hone hj
    · exact hgo hone hj
    · cases hr : read (c :: cs) with
      | none => rw [hr] at hj; exact nomatch hj
      | some r =>
        obtain ⟨hl, hr'⟩ := read_hash hu h hr
        rw [List.cons_append] at hr'
        obtain ⟨sort, i⟩ := r
        rw [hr] at hj
        rw [hr']
        cases sort with
        | number => exact hgo hl hj
        | character => exact hgo hl hj
        | string => exact nomatch hj
        | mark => exact nomatch hj
        | word =>
          dsimp only at hj hl ⊢
          rw [← List.cons_append, List.take_append_of_le_length hl, List.drop_append_of_le_length hl]
          split_ifs at hj ⊢
          · obtain ⟨m, hm, hj⟩ := Option.bind_eq_some_iff.mp hj
            obtain ⟨hle, hm'⟩ := definedTest_hash hu (h.drop i) hm
            rw [List.length_drop] at hle
            rw [hm']
            exact hgo (by omega) hj
          · exact hgo hl hj

lemma operationStep_hash {callable : Bool} (hu : Unclosed ('#' :: u)) (h : Ended cs)
    (hgo : ∀ {i want stack j}, i ≤ cs.length → go i want stack = some j →
      j ≤ gap + cs.length ∧ go' i want stack = some j)
    (hj : operationStep go gap callable stack cs = some j) :
    j ≤ gap + cs.length ∧ operationStep go' gap callable stack (cs ++ '#' :: u) = some j := by
  cases cs with
  | nil => exact nomatch hj
  | cons c cs =>
    have hone : 1 ≤ (c :: cs).length := Nat.succ_le_succ (Nat.zero_le _)
    have hoperators : ∀ o ∈ binaryOperators, '#' ∉ o.toList := by decide
    have hfind := find?_hash (u := u) hoperators (c :: cs)
    have hs := skip_le cs
    rw [List.cons_append] at hfind
    simp only [operationStep] at hj
    simp only [List.cons_append, operationStep, hfind, skip_hash hu h.tail, List.drop_append_of_le_length hs,
      head?_hash (u := u) (q := ')') (by decide)]
    split_ifs at hj ⊢ with _ _ hh
    · obtain rfl := Option.some.inj hj
      exact ⟨Nat.add_le_add_left hone gap, rfl⟩
    · refine hgo ?_ hj
      have hlt : skip cs < cs.length := by
        by_contra hge
        rw [List.drop_eq_nil_of_le (by omega)] at hh
        exact nomatch hh
      rw [List.length_cons]
      omega
    · exact hgo hone hj
    · cases stack with
      | nil => exact nomatch hj
      | cons b stack => exact hgo hone hj
    · match stack with
      | [] => exact nomatch hj
      | false :: stack => exact nomatch hj
      | true :: stack => exact hgo hone hj
    · obtain ⟨o, ho, hj⟩ := Option.bind_eq_some_iff.mp hj
      rw [ho]
      exact hgo (find?_le ho) hj

lemma condition_hash {want : Want} {k m : Nat} (hu : Unclosed ('#' :: u)) (h : Ended cs) (hkm : k ≤ m)
    (hn : condition k want stack cs = some n) :
    n ≤ cs.length ∧ condition m want stack (cs ++ '#' :: u) = some n := by
  induction k generalizing want stack cs m n with
  | zero => exact nomatch hn
  | succ k ih =>
    obtain ⟨m, rfl⟩ := Nat.exists_eq_succ_of_ne_zero (Nat.ne_zero_of_lt hkm)
    have hgo : ∀ {gap i want stack j} {rest : List Char}, Ended rest → i ≤ rest.length →
        goOn k gap rest i want stack = some j →
        j ≤ gap + rest.length ∧ goOn m gap (rest ++ '#' :: u) i want stack = some j := by
      intro gap i want stack j rest hrest hi hj
      rw [goOn] at hj
      obtain ⟨a, ha, rfl⟩ := Option.map_eq_some_iff.mp hj
      obtain ⟨hle, hc⟩ := ih (hrest.drop i) (Nat.le_of_succ_le_succ hkm) ha
      rw [List.length_drop] at hle
      rw [goOn, List.drop_append_of_le_length hi, hc]
      exact ⟨by omega, rfl⟩
    cases want with
    | operand =>
      have hs := skip_le cs
      have hlen : (cs.drop (skip cs)).length = cs.length - skip cs := List.length_drop
      rw [condition_operand] at hn
      rw [Nat.succ_eq_add_one, condition_operand, skip_hash hu h, List.drop_append_of_le_length hs]
      obtain ⟨hle, hc⟩ := operandStep_hash hu (h.drop _) (hgo (h.drop _)) hn
      exact ⟨by omega, hc⟩
    | operation callable =>
      rw [condition_operation] at hn
      rw [Nat.succ_eq_add_one, condition_operation, lineBlanks_hash hu h, skip_hash hu h]
      dsimp only at hn ⊢
      have hs : (if stack.isEmpty = true then lineBlanks cs.length cs else skip cs) ≤ cs.length := by
        split_ifs
        · exact lineBlanks_le _ cs
        · exact skip_le cs
      generalize (if stack.isEmpty = true then lineBlanks cs.length cs else skip cs) = gap at hn hs
      have hlen : (cs.drop gap).length = cs.length - gap := List.length_drop
      rw [List.drop_append_of_le_length hs]
      obtain ⟨hle, hc⟩ := operationStep_hash hu (h.drop gap) (hgo (h.drop gap)) hn
      exact ⟨by omega, hc⟩

lemma test_hash (hu : Unclosed ('#' :: u)) (h : Ended cs) (hn : test cs = some n) :
    n ≤ cs.length ∧ test (cs ++ '#' :: u) = some n :=
  condition_hash hu h (by simp) hn

end Quadrature.C.Directive
