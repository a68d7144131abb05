import Quadrature.Proofs.Lookahead

/-! The ends of blanks and comments do not depend on what stands behind whole lines. -/

namespace Quadrature.C.Lexeme

variable {c : Char} {cs ds u : List Char} {p : Char → Bool} {n : Nat}

lemma lineJoin_hash (cs : List Char) : lineJoin (cs ++ '#' :: u) = lineJoin cs := by
  match cs with
  | [] => simp [lineJoin]
  | [c] => simp [lineJoin]
  | [c, d] => unfold lineJoin; simp; split <;> simp_all
  | c :: d :: e :: cs => unfold lineJoin; split <;> split <;> simp_all

lemma lineJoin_le (cs : List Char) : lineJoin cs ≤ cs.length := by
  unfold lineJoin
  split <;> simp

/-- A backslash that took the last line end along would join it. -/
lemma Ended.escape_lt (h : Ended ('\\' :: ds)) :
    (if ['\r', '\n'].isPrefixOf ds then 2 else if ds.head? = some '\\' then 0 else 1) < ds.length := by
  match ds with
  | [] => exact absurd (h.newline '\\' rfl) (by decide)
  | [d] =>
    obtain rfl : d = '\n' := h.newline d rfl
    exact absurd (List.suffix_refl _) h.unjoined
  | [d, e] =>
    obtain rfl : e = '\n' := h.newline e rfl
    have hd : d ≠ '\r' := by
      rintro rfl
      exact h.unjoinedReturn (List.suffix_refl _)
    have hp : ['\r', '\n'].isPrefixOf [d, '\n'] = false := by simp [List.isPrefixOf, Ne.symm hd]
    rw [hp, if_neg (by decide)]
    split_ifs <;> simp
  | d :: e :: f :: ds => split_ifs <;> simp

lemma lineComment_hash {k : Nat} (h : Ended cs) (hk : k < cs.length) :
    lineComment k (cs ++ '#' :: u) = lineComment k cs := by
  induction cs generalizing k with
  | nil => exact absurd hk (Nat.not_lt_zero k)
  | cons c cs ih =>
    cases k with
    | succ k => simp only [List.cons_append, lineComment, ih h.tail (Nat.lt_of_succ_lt_succ hk)]
    | zero =>
      by_cases hn : c = '\n'
      · rw [hn, List.cons_append, lineComment_newline, lineComment_newline]
      have hne := h.tail_ne_nil hn
      by_cases hb : c = '\\'
      · subst hb
        have hs : cs ≠ ['\\'] := by
          rintro rfl
          exact absurd (h.newline '\\' rfl) (by decide)
        have hs' : cs ++ '#' :: u ≠ ['\\'] := by
          cases cs <;> simp_all
        rw [List.cons_append, lineComment_backslash (by simp) hs', lineComment_backslash hne hs,
          isPrefixOf_hash (by decide), List.head?_append_of_ne_nil cs hne, ih h.tail h.escape_lt]
      · rw [List.cons_append, lineComment_plain hn hb, lineComment_plain hn hb,
          ih h.tail (List.length_pos_iff.mpr hne)]

lemma lineComment_le (k : Nat) (cs : List Char) : lineComment k cs ≤ cs.length := by
  induction cs generalizing k with
  | nil => exact Nat.le_refl 0
  | cons c cs ih =>
    have hone : ∀ k, 1 + lineComment k cs ≤ cs.length + 1 := fun k => by
      rw [Nat.add_comm]
      exact Nat.succ_le_succ (ih k)
    cases k with
    | succ k =>
      rw [lineComment, List.length_cons]
      exact hone k
    | zero =>
      by_cases hn : c = '\n'
      · rw [hn, lineComment_newline]
        exact Nat.zero_le _
      by_cases hb : c = '\\'
      · subst hb
        by_cases hne : cs = []
        · subst hne
          exact Nat.zero_le 1
        by_cases hs : cs = ['\\']
        · subst hs
          exact Nat.le_refl 2
        rw [lineComment_backslash hne hs]
        exact hone _
      · rw [lineComment_plain hn hb]
        exact hone 0

lemma blockComment_of_unclosed (h : Unclosed cs) : blockComment cs = none := by
  induction cs with
  | nil => rfl
  | cons c cs ih =>
    rw [Unclosed, List.isChain_cons] at h
    rw [blockComment, ih h.2, if_neg]
    · rfl
    · simp only [Bool.and_eq_true, decide_eq_true_eq, not_and]
      intro hc hh
      exact h.1 '/' hh ⟨hc, rfl⟩

lemma blockComment_hash (hu : Unclosed ('#' :: u)) (cs : List Char) :
    blockComment (cs ++ '#' :: u) = blockComment cs := by
  induction cs with
  | nil => exact blockComment_of_unclosed hu
  | cons c cs ih =>
    have hh : ((cs ++ '#' :: u).head? = some '/') = (cs.head? = some '/') := by
      cases cs <;> simp
    simp only [List.cons_append, blockComment, ih, hh]

lemma blockComment_le (h : blockComment cs = some n) : n ≤ cs.length := by
  induction cs generalizing n with
  | nil => exact nomatch h
  | cons c cs ih =>
    rw [blockComment] at h
    split_ifs at h with hc
    · obtain rfl := Option.some.inj h
      cases cs <;> simp_all
    · obtain ⟨m, hm, rfl⟩ := Option.map_eq_some_iff.mp h
      exact Nat.succ_le_succ (ih hm)

lemma comment_hash (hu : Unclosed ('#' :: u)) (h : Ended cs) : comment (cs ++ '#' :: u) = comment cs := by
  match cs with
  | [] => simp [comment]
  | [c] => simp [comment]
  | c :: d :: cs =>
    by_cases hc : c = '/'
    · by_cases hd : d = '/'
      · subst hc hd
        have hne := h.tail.tail_ne_nil (by decide)
        simp only [List.cons_append, comment, lineComment_hash h.tail.tail (List.length_pos_iff.mpr hne)]
      · by_cases hs : d = '*'
        · subst hc hs
          simp only [List.cons_append, comment, blockComment_hash hu]
        · simp [comment, hd, hs]
    · simp [comment, hc]

lemma comment_bounds (h : comment cs = some n) : 0 < n ∧ n ≤ cs.length := by
  unfold comment at h
  split at h
  · obtain rfl := Option.some.inj h
    exact ⟨by omega, by have := lineComment_le 0 ‹_›; simp only [List.length_cons]; omega⟩
  · obtain ⟨m, hm, rfl⟩ := Option.map_eq_some_iff.mp h
    exact ⟨by omega, by have := blockComment_le hm; simp only [List.length_cons]; omega⟩
  · exact nomatch h

def blanksBy (p : Char → Bool) : Nat → List Char → Nat
  | 0, _ => 0
  | fuel + 1, cs =>
    match count p cs + lineJoin (cs.dropWhile p) with
    | 0 =>
      match comment cs with
      | some n => n + blanksBy p fuel (cs.drop n)
      | none => 0
    | n => n + blanksBy p fuel (cs.drop n)

lemma blanks_eq (k : Nat) (cs : List Char) : blanks k cs = blanksBy isSpace k cs := by
  induction k generalizing cs with
  | zero => rfl
  | succ k ih =>
    have hk : blanks k = blanksBy isSpace k := funext ih
    rewrite [blanks, blanksBy, hk]
    rfl

lemma count_add_lineJoin_le (p : Char → Bool) (cs : List Char) :
    count p cs + lineJoin (cs.dropWhile p) ≤ cs.length := by
  have hj := lineJoin_le (cs.dropWhile p)
  have hl := congrArg List.length (List.takeWhile_append_dropWhile (p := p) (l := cs))
  rw [List.length_append] at hl
  rw [count]
  omega

lemma blanksBy_le (p : Char → Bool) (k : Nat) (cs : List Char) : blanksBy p k cs ≤ cs.length := by
  induction k generalizing cs with
  | zero => exact Nat.zero_le _
  | succ k ih =>
    have hrest : ∀ n, n ≤ cs.length → n + blanksBy p k (cs.drop n) ≤ cs.length := by
      intro n hn
      have hr := ih (cs.drop n)
      rw [List.length_drop] at hr
      omega
    rw [blanksBy]
    split
    · split
      · next hc => exact hrest _ (comment_bounds hc).2
      · exact Nat.zero_le _
    · exact hrest _ (count_add_lineJoin_le p cs)

lemma blanksBy_hash {k m : Nat} (hp : p '#' = false) (hu : Unclosed ('#' :: u)) (h : Ended cs)
    (hk : cs.length ≤ k) (hm : cs.length < m) : blanksBy p m (cs ++ '#' :: u) = blanksBy p k cs := by
  induction k generalizing cs m with
  | zero =>
    obtain rfl := List.length_eq_zero_iff.mp (Nat.le_zero.mp hk)
    obtain ⟨m, rfl⟩ := Nat.exists_eq_succ_of_ne_zero (Nat.ne_of_gt hm)
    simp [blanksBy, count, hp, lineJoin, comment]
  | succ k ih =>
    obtain ⟨m, rfl⟩ := Nat.exists_eq_succ_of_ne_zero (Nat.ne_zero_of_lt hm)
    have hrest : ∀ n, 0 < n → n ≤ cs.length →
        blanksBy p m ((cs ++ '#' :: u).drop n) = blanksBy p k (cs.drop n) := by
      intro n hn hl
      rw [List.drop_append_of_le_length hl]
      refine ih (h.drop n) ?_ ?_ <;> (rw [List.length_drop]; omega)
    have hle := count_add_lineJoin_le p cs
    rw [blanksBy, blanksBy, count_hash hp, dropWhile_hash hp, lineJoin_hash, comment_hash hu h]
    cases hn : count p cs + lineJoin (cs.dropWhile p) with
    | succ n =>
      rw [hn] at hle
      simp only [hrest (n + 1) (Nat.succ_pos n) hle]
    | zero =>
      cases hc : comment cs with
      | none => rfl
      | some n => simp only [hrest n (comment_bounds hc).1 (comment_bounds hc).2]

lemma skip_le (cs : List Char) : skip cs ≤ cs.length := by
  rw [skip, blanks_eq]
  exact blanksBy_le isSpace _ cs

lemma skip_hash (hu : Unclosed ('#' :: u)) (h : Ended cs) : skip (cs ++ '#' :: u) = skip cs := by
  rw [skip, skip, blanks_eq, blanks_eq]
  exact blanksBy_hash (by decide) hu h (Nat.le_refl _) (by simp)

end Quadrature.C.Lexeme
