import Quadrature.Proofs.LexemeLookahead

/-! Directives do not look behind whole lines: the measures of their parts, before a line that starts
with `#`. -/

namespace Quadrature.C.Directive

open Lexeme

variable {cs u : List Char} {n : Nat}

lemma name_hash (cs : List Char) : name (cs ++ '#' :: u) = name cs := by
  have hg := count_le (fun c => c == ' ' || c == '\t') cs
  rw [name, count_hash (by decide), List.drop_append_of_le_length hg, takeWhile_hash (by decide), name]

lemma name_le {w : String} (h : name cs = some (w, n)) : n ≤ cs.length := by
  have hg := count_le (fun c => c == ' ' || c == '\t') cs
  rw [name] at h
  generalize count (fun c => c == ' ' || c == '\t') cs = gap at h hg
  have hl := count_le (fun c => c.isAlphanum || c == '_') (cs.drop gap)
  rw [count, List.length_drop] at hl
  split at h
  · cases h
  · next hw =>
    split_ifs at h
    simp only [Option.some.injEq, Prod.mk.injEq] at h
    omega

lemma lineEnd_hash (cs : List Char) : lineEnd (cs ++ '#' :: u) = lineEnd cs := by
  match cs with
  | [] => simp [lineEnd]
  | [c] => unfold lineEnd; split <;> split <;> simp_all
  | c :: d :: cs => unfold lineEnd; split <;> split <;> simp_all

lemma lineEnd_le (cs : List Char) : lineEnd cs ≤ cs.length := by
  unfold lineEnd
  split <;> simp

lemma separators_le (k : Nat) (cs : List Char) : separators k cs ≤ cs.length := by
  induction k generalizing cs with
  | zero => exact Nat.zero_le _
  | succ k ih =>
    have hl := count_add_lineJoin_le isSpace cs
    rw [separators]
    split
    · exact Nat.zero_le _
    · have hr := ih (cs.drop (count isSpace cs + lineJoin (cs.dropWhile isSpace)))
      rw [List.length_drop] at hr
      omega

lemma separators_hash {k m : Nat} (hk : cs.length ≤ k) (hm : cs.length < m) :
    separators m (cs ++ '#' :: u) = separators k cs := by
  induction k generalizing cs m with
  | zero =>
    obtain rfl := List.length_eq_zero_iff.mp (Nat.le_zero.mp hk)
    obtain ⟨m, rfl⟩ := Nat.exists_eq_succ_of_ne_zero (Nat.ne_of_gt hm)
    rfl
  | succ k ih =>
    obtain ⟨m, rfl⟩ := Nat.exists_eq_succ_of_ne_zero (Nat.ne_zero_of_lt hm)
    have hl := count_add_lineJoin_le isSpace cs
    rw [separators, separators, count_hash (by decide), dropWhile_hash (by decide), lineJoin_hash]
    cases hn : count isSpace cs + lineJoin (cs.dropWhile isSpace) with
    | zero => rfl
    | succ n =>
      rw [hn] at hl
      have hr : separators m ((cs ++ '#' :: u).drop (n + 1)) = separators k (cs.drop (n + 1)) := by
        rw [List.drop_append_of_le_length hl]
        refine ih ?_ ?_ <;> (rw [List.length_drop]; omega)
      simp only [hr]

lemma gap_hash (cs : List Char) :
    separators (cs ++ '#' :: u).length (cs ++ '#' :: u) = separators cs.length cs :=
  separators_hash (Nat.le_refl _) (by simp)

lemma lineTail_hash {k m : Nat} (hu : Unclosed ('#' :: u)) (h : Ended cs) (hkm : k ≤ m)
    (hn : lineTail k cs = some n) : n ≤ cs.length ∧ lineTail m (cs ++ '#' :: u) = some n := by
  induction k generalizing cs m n with
  | zero => exact nomatch hn
  | succ k ih =>
    obtain ⟨m, rfl⟩ := Nat.exists_eq_succ_of_ne_zero (Nat.ne_zero_of_lt hkm)
    have hl := lineEnd_le cs
    have hs := separators_le cs.length cs
    rw [lineTail] at hn
    rw [lineTail, lineEnd_hash, gap_hash]
    cases he : lineEnd cs with
    | succ e =>
      rw [he] at hn hl
      obtain rfl := Option.some.inj hn
      exact ⟨hl, rfl⟩
    | zero =>
      rw [he] at hn
      dsimp only at hn ⊢
      generalize separators cs.length cs = gap at hn hs
      rw [List.drop_append_of_le_length hs, comment_hash hu (h.drop gap)]
      cases hc : comment (cs.drop gap) with
      | none => rw [hc] at hn; exact nomatch hn
      | some j =>
        rw [hc] at hn
        have hj := (comment_bounds hc).2
        rw [List.length_drop] at hj
        obtain ⟨i, hi, rfl⟩ := Option.map_eq_some_iff.mp hn
        obtain ⟨hle, ht⟩ := ih (h.drop (gap + j)) (Nat.le_of_succ_le_succ hkm) hi
        rw [List.length_drop] at hle
        dsimp only
        rw [List.drop_append_of_le_length (by omega), ht]
        exact ⟨by omega, rfl⟩

lemma lineTail_nil (k : Nat) : lineTail k [] = none := by
  cases k <;> rfl

lemma freeText_le (k : Nat) (cs : List Char) : freeText k cs ≤ cs.length := by
  induction cs generalizing k with
  | nil => exact Nat.le_refl 0
  | cons c cs ih =>
    have hone : ∀ k, 1 + freeText k cs ≤ (c :: cs).length := fun k => by
      rw [Nat.add_comm]
      exact Nat.succ_le_succ (ih k)
    cases k with
    | succ k =>
      rw [freeText]
      exact hone k
    | zero =>
      rw [freeText]
      split_ifs
      · exact Nat.zero_le _
      · split
        · exact Nat.zero_le _
        · split_ifs
          · exact Nat.zero_le _
          · exact hone 1
      · exact hone _

lemma freeText_hash {k : Nat} (h : Ended cs) (hl : freeText k cs < cs.length) :
    freeText k (cs ++ '#' :: u) = freeText k cs := by
  induction cs generalizing k with
  | nil => exact absurd hl (Nat.not_lt_zero _)
  | cons c cs ih =>
    have hone : ∀ k, 1 + freeText k cs < (c :: cs).length →
        1 + freeText k (cs ++ '#' :: u) = 1 + freeText k cs := fun k hk => by
      rw [List.length_cons, Nat.add_comm] at hk
      rw [ih h.tail (Nat.lt_of_succ_lt_succ hk)]
    cases k with
    | succ k =>
      rw [freeText] at hl
      rw [List.cons_append, freeText, freeText]
      exact hone k hl
    | zero =>
      have hj := lineJoin_hash (u := u) (c :: cs)
      rw [List.cons_append] at hj
      rw [freeText] at hl
      rw [List.cons_append, freeText, freeText, hj]
      by_cases hn : c = '\n'
      · rw [if_pos hn, if_pos hn]
      rw [if_neg hn] at hl ⊢
      rw [if_neg hn]
      have hne := h.tail_ne_nil hn
      rw [List.head?_append_of_ne_nil cs hne]
      split_ifs at hl ⊢
      · cases hh : cs.head? with
        | none => rfl
        | some d =>
          rw [hh] at hl
          dsimp only at hl ⊢
          split_ifs at hl ⊢
          · rfl
          · exact hone 1 hl
      · exact hone _ hl

lemma freeLine_hash {k m : Nat} (hu : Unclosed ('#' :: u)) (h : Ended cs) (hkm : k ≤ m)
    (hn : freeLine k cs = some n) : n ≤ cs.length ∧ freeLine m (cs ++ '#' :: u) = some n := by
  induction k generalizing cs m n with
  | zero => exact nomatch hn
  | succ k ih =>
    obtain ⟨m, rfl⟩ := Nat.exists_eq_succ_of_ne_zero (Nat.ne_zero_of_lt hkm)
    have hl := lineEnd_le cs
    have hs := separators_le cs.length cs
    rw [freeLine] at hn
    rw [freeLine, lineEnd_hash, gap_hash]
    cases he : lineEnd cs with
    | succ e =>
      rw [he] at hn hl
      obtain rfl := Option.some.inj hn
      exact ⟨hl, rfl⟩
    | zero =>
      rw [he] at hn
      dsimp only at hn ⊢
      generalize separators cs.length cs = gap at hn hs
      have hrest := h.drop gap
      have hlen : (cs.drop gap).length = cs.length - gap := List.length_drop
      rw [List.drop_append_of_le_length hs, comment_hash hu hrest]
      generalize cs.drop gap = rest at hn hrest hlen
      cases hc : comment rest with
      | some j =>
        rw [hc] at hn
        have hj := (comment_bounds hc).2
        obtain ⟨i, hi, rfl⟩ := Option.map_eq_some_iff.mp hn
        obtain ⟨hle, ht⟩ := ih (hrest.drop j) (Nat.le_of_succ_le_succ hkm) hi
        rw [List.length_drop] at hle
        dsimp only
        rw [List.drop_append_of_le_length hj, ht]
        exact ⟨by omega, rfl⟩
      | none =>
        rw [hc] at hn
        cases rest with
        | nil => exact nomatch hn
        | cons c tail =>
          dsimp only [List.cons_append] at hn ⊢
          obtain ⟨i, hi, rfl⟩ := Option.map_eq_some_iff.mp hn
          -- text that reached the end of the lines would leave no line end
          have hlt : freeText 0 tail < tail.length := by
            refine Nat.lt_of_le_of_ne (freeText_le 0 tail) fun he => ?_
            rw [he, Nat.add_comm, List.drop_succ_cons, List.drop_length, lineTail_nil] at hi
            exact nomatch hi
          have hle : 1 + freeText 0 tail ≤ (c :: tail).length := by
            rw [List.length_cons]
            omega
          obtain ⟨hi', ht⟩ := lineTail_hash hu (hrest.drop (1 + freeText 0 tail))
            (m := (c :: (tail ++ '#' :: u)).length) (by simp) hi
          rw [List.length_drop] at hi'
          rw [freeText_hash hrest.tail hlt, ← List.cons_append, List.drop_append_of_le_length hle,
            List.cons_append, ht]
          exact ⟨by omega, rfl⟩

lemma other_hash (hu : Unclosed ('#' :: u)) (h : Ended cs) (hn : other cs = some n) :
    n ≤ cs.length ∧ other (cs ++ '#' :: u) = some n :=
  freeLine_hash hu h (by simp) hn

lemma named_hash (hu : Unclosed ('#' :: u)) (h : Ended cs) : named (cs ++ '#' :: u) = named cs := by
  rw [named, skip_hash hu h, List.drop_append_of_le_length (skip_le cs), identifier_hash]
  rfl

lemma named_le (h : named cs = some n) : n ≤ cs.length := by
  have hs := skip_le cs
  have hi := identifier_le (cs.drop (skip cs))
  rw [List.length_drop] at hi
  rw [named] at h
  split at h
  · cases h
  · obtain rfl := Option.some.inj h
    omega

end Quadrature.C.Directive
