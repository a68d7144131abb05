import Quadrature.C.Directive
import Quadrature.Proofs.Comments

/-! What stands behind whole lines is not looked at: a lexeme or a directive that ends within them is
measured in the same way when a line that starts with `#` follows. -/

namespace Quadrature.C.Lexeme

/-- Nothing, or whole lines of which the last one ends in no backslash. -/
structure Ended (cs : List Char) : Prop where
  newline : ∀ c ∈ cs.getLast?, c = '\n'
  unjoined : ¬ ['\\', '\n'] <:+ cs
  unjoinedReturn : ¬ ['\\', '\r', '\n'] <:+ cs

variable {c : Char} {cs ds u : List Char} {p : Char → Bool} {n : Nat}

lemma Ended.suffix (h : Ended cs) (hs : ds <:+ cs) : Ended ds where
  newline := by
    intro c hc
    refine h.newline c ?_
    obtain ⟨a, rfl⟩ := hs
    rw [List.getLast?_append, Option.mem_def.mp hc]
    rfl
  unjoined := fun hj => h.unjoined (hj.trans hs)
  unjoinedReturn := fun hj => h.unjoinedReturn (hj.trans hs)

lemma Ended.drop (h : Ended cs) (n : Nat) : Ended (cs.drop n) := h.suffix (List.drop_suffix n cs)

lemma Ended.tail (h : Ended (c :: cs)) : Ended cs := h.suffix (List.suffix_cons c cs)

lemma Ended.tail_ne_nil (h : Ended (c :: cs)) (hc : c ≠ '\n') : cs ≠ [] := by
  rintro rfl
  exact hc (h.newline c rfl)

/-! ## Runs of characters -/

lemma takeWhile_hash (hp : p '#' = false) (cs : List Char) :
    (cs ++ '#' :: u).takeWhile p = cs.takeWhile p := by
  induction cs with
  | nil => simp [hp]
  | cons c cs ih => simp only [List.cons_append, List.takeWhile_cons, ih]

lemma dropWhile_hash (hp : p '#' = false) (cs : List Char) :
    (cs ++ '#' :: u).dropWhile p = cs.dropWhile p ++ '#' :: u := by
  induction cs with
  | nil => simp [hp]
  | cons c cs ih =>
    simp only [List.cons_append, List.dropWhile_cons, ih]
    split_ifs <;> rfl

lemma count_hash (hp : p '#' = false) (cs : List Char) : count p (cs ++ '#' :: u) = count p cs := by
  rw [count, takeWhile_hash hp, count]

lemma count_le (p : Char → Bool) (cs : List Char) : count p cs ≤ cs.length :=
  (List.takeWhile_prefix p).length_le

lemma isPrefixOf_hash {m : List Char} (hm : '#' ∉ m) (cs : List Char) :
    m.isPrefixOf (cs ++ '#' :: u) = m.isPrefixOf cs := by
  induction m generalizing cs with
  | nil => simp
  | cons d m ih =>
    obtain ⟨hd, hm⟩ := List.ne_and_not_mem_of_not_mem_cons hm
    cases cs with
    | nil => simp [List.isPrefixOf, Ne.symm hd]
    | cons c cs => simp [List.isPrefixOf, ih hm cs]

lemma hexDigits_hash (n : Nat) (cs : List Char) : hexDigits n (cs ++ '#' :: u) = hexDigits n cs := by
  by_cases hl : n ≤ cs.length
  · rw [hexDigits, List.take_append_of_le_length hl, hexDigits]
  · have hm : '#' ∈ (cs ++ '#' :: u).take n := by
      rw [List.take_append]
      refine List.mem_append_right _ ?_
      obtain ⟨k, hk⟩ := Nat.exists_eq_succ_of_ne_zero (n := n - cs.length) (by omega)
      simp [hk]
    have hall : ((cs ++ '#' :: u).take n).all isHexDigit = false :=
      List.all_eq_false.mpr ⟨'#', hm, by decide⟩
    have hshort : ((cs.take n).length == n) = false := by simp; omega
    rw [hexDigits, hexDigits, hall, hshort, Bool.and_false, Bool.false_and]

/-! ## Identifiers -/

lemma identifierUnit_of_head {own : Char → Bool} (h : c = '\\' → cs.head? ≠ some 'u' ∧ cs.head? ≠ some 'U') :
    identifierUnit own (c :: cs) = if own c then 1 else 0 := by
  unfold identifierUnit
  split <;> simp_all

lemma identifierUnit_hash (hp : p '#' = false) (cs : List Char) :
    identifierUnit p (cs ++ '#' :: u) = identifierUnit p cs := by
  fun_cases identifierUnit p cs with
  | case1 cs h => simp [identifierUnit, hexDigits_hash, h]
  | case2 cs h => simp [identifierUnit, hexDigits_hash, h]
  | case3 cs h => simp [identifierUnit, hexDigits_hash, h]
  | case4 cs h => simp [identifierUnit, hexDigits_hash, h]
  | case5 c cs hu hU h =>
    rw [List.cons_append, identifierUnit_of_head, if_pos h]
    rintro rfl
    cases cs <;> simp_all
  | case6 c cs hu hU h =>
    rw [List.cons_append, identifierUnit_of_head, if_neg h]
    rintro rfl
    cases cs <;> simp_all
  | case7 => simp [identifierUnit, hp]

lemma hexDigits_le {n : Nat} (h : hexDigits n cs = true) : n ≤ cs.length := (hexDigits_append h []).1

lemma identifierUnit_le (own : Char → Bool) (cs : List Char) : identifierUnit own cs ≤ cs.length := by
  fun_cases identifierUnit own cs with
  | case1 cs h => exact Nat.add_le_add_right (hexDigits_le h) 2
  | case3 cs h => exact Nat.add_le_add_right (hexDigits_le h) 2
  | case5 c cs => exact Nat.succ_pos cs.length
  | case2 | case4 | case6 | case7 => exact Nat.zero_le _

lemma identifierRest_hash {k : Nat} (hk : k ≤ cs.length) :
    identifierRest k (cs ++ '#' :: u) = identifierRest k cs := by
  induction cs generalizing k with
  | nil =>
    obtain rfl : k = 0 := by simpa using hk
    exact identifierRest_eq_zero (by decide) (by decide) u
  | cons c cs ih =>
    cases k with
    | succ k => simp only [List.cons_append, identifierRest, ih (Nat.le_of_succ_le_succ hk)]
    | zero =>
      have hu := identifierUnit_hash (u := u) (p := fun c => Text.isXidContinue c || c == '$') (by decide) (c :: cs)
      have hl := identifierUnit_le (fun c => Text.isXidContinue c || c == '$') (c :: cs)
      rw [List.cons_append] at hu
      simp only [List.cons_append, identifierRest, hu]
      cases hn : identifierUnit (fun c => Text.isXidContinue c || c == '$') (c :: cs) with
      | zero => rfl
      | succ n =>
        rw [hn] at hl
        simp only [ih (Nat.le_of_succ_le_succ hl)]

lemma identifierRest_le (k : Nat) (cs : List Char) : identifierRest k cs ≤ cs.length := by
  induction cs generalizing k with
  | nil => exact Nat.le_refl 0
  | cons c cs ih =>
    cases k with
    | succ k =>
      rw [identifierRest, List.length_cons, Nat.add_comm]
      exact Nat.succ_le_succ (ih k)
    | zero =>
      rw [identifierRest]
      split
      · exact Nat.zero_le _
      · rw [List.length_cons, Nat.add_comm]
        exact Nat.succ_le_succ (ih _)

lemma identifier_hash (cs : List Char) : identifier (cs ++ '#' :: u) = identifier cs := by
  have hu := identifierUnit_hash (u := u) (p := fun c => Text.isXidStart c || c == '_' || c == '$') (by decide) cs
  have hl := identifierUnit_le (fun c => Text.isXidStart c || c == '_' || c == '$') cs
  simp only [identifier, hu]
  cases hn : identifierUnit (fun c => Text.isXidStart c || c == '_' || c == '$') cs with
  | zero => rfl
  | succ n =>
    rw [hn] at hl
    simp only [List.drop_append_of_le_length hl, identifierRest_hash (Nat.zero_le _)]

lemma identifier_le (cs : List Char) : identifier cs ≤ cs.length := by
  have hl := identifierUnit_le (fun c => Text.isXidStart c || c == '_' || c == '$') cs
  rw [identifier]
  cases hn : identifierUnit (fun c => Text.isXidStart c || c == '_' || c == '$') cs with
  | zero => exact Nat.zero_le _
  | succ n =>
    have hr := identifierRest_le 0 (cs.drop (n + 1))
    rw [List.length_drop] at hr
    dsimp only
    omega

end Quadrature.C.Lexeme
