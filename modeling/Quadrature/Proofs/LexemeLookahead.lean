import Quadrature.Proofs.NumberLookahead

/-! Literals, marks and whole lexemes are measured without what stands behind whole lines. -/

namespace Quadrature.C.Lexeme

variable {c : Char} {cs ds u : List Char} {p : Char → Bool} {n : Nat}

lemma escape_hash (h : Ended (c :: cs)) : escape (c :: cs ++ '#' :: u) = escape (c :: cs) := by
  cases cs with
  | nil =>
    obtain rfl : c = '\n' := h.newline c rfl
    rfl
  | cons d cs =>
    by_cases hc : c = '\\'
    · subst hc
      by_cases hx : d = 'x'
      · subst hx
        simp only [List.cons_append, escape, hexDigits_hash]
      by_cases hu : d = 'u'
      · subst hu
        simp only [List.cons_append, escape, hexDigits_hash]
      by_cases hU : d = 'U'
      · subst hU
        simp only [List.cons_append, escape, hexDigits_hash]
      · simp [escape]
    · simp [escape, hc]

lemma escape_le (cs : List Char) : escape cs ≤ cs.length := by
  unfold escape
  split
  · split_ifs with h
    · have := hexDigits_le h; simp only [List.length_cons]; omega
    · exact Nat.zero_le _
  · split_ifs with h
    · have := hexDigits_le h; simp only [List.length_cons]; omega
    · exact Nat.zero_le _
  · split_ifs with h
    · have := hexDigits_le h; simp only [List.length_cons]; omega
    · exact Nat.zero_le _
  · simp
  · exact Nat.zero_le _

lemma quotedRest_hash {quote : Char} {filled : Bool} {k m : Nat} (hu : Unclosed ('#' :: u)) (h : Ended cs)
    (hkm : k ≤ m) (hq : quotedRest quote filled k cs = some n) :
    n ≤ cs.length ∧ quotedRest quote filled m (cs ++ '#' :: u) = some n := by
  induction k generalizing filled cs m n with
  | zero => exact nomatch hq
  | succ k ih =>
    obtain ⟨m, rfl⟩ := Nat.exists_eq_succ_of_ne_zero (Nat.ne_zero_of_lt hkm)
    have hkm := Nat.le_of_succ_le_succ hkm
    cases cs with
    | nil => exact nomatch hq
    | cons c cs =>
      -- what is read behind `i` characters is read in the same way before the fence
      have hrest : ∀ {i j : Nat} {b : Bool}, i ≤ (c :: cs).length →
          (quotedRest quote b k ((c :: cs).drop i)).map (· + i) = some j →
          j ≤ (c :: cs).length ∧
            (quotedRest quote b m ((c :: cs ++ '#' :: u).drop i)).map (· + i) = some j := by
        intro i j b hi hj
        obtain ⟨a, ha, rfl⟩ := Option.map_eq_some_iff.mp hj
        obtain ⟨hl, hr⟩ := ih (h.drop i) hkm ha
        rw [List.length_drop] at hl
        rw [List.drop_append_of_le_length hi, hr]
        exact ⟨by omega, rfl⟩
      rw [quotedRest] at hq
      rw [List.cons_append, quotedRest]
      split_ifs at hq ⊢
      · obtain rfl := Option.some.inj hq
        exact ⟨Nat.succ_le_succ (Nat.zero_le _), rfl⟩
      · rw [← List.cons_append, escape_hash h]
        have he := escape_le (c :: cs)
        cases hn : escape (c :: cs) with
        | zero => rw [hn] at hq; exact nomatch hq
        | succ e =>
          rw [hn] at hq he
          exact hrest he hq
      · have hl := skip_le (c :: cs)
        rw [← List.cons_append, skip_hash hu h]
        dsimp only at hq ⊢
        rw [List.drop_append_of_le_length hl]
        cases hd : (c :: cs).drop (skip (c :: cs)) with
        | nil => rw [hd] at hq; exact nomatch hq
        | cons d ds =>
          rw [hd] at hq
          rw [List.cons_append]
          dsimp only at hq ⊢
          split_ifs at hq ⊢
          have hr := hrest (b := filled) hl (hd ▸ hq)
          rwa [List.drop_append_of_le_length hl, hd] at hr
      · exact hrest (Nat.succ_le_succ (Nat.zero_le _)) hq

lemma stringLiteral_hash (hu : Unclosed ('#' :: u)) (h : Ended cs) (hs : stringLiteral cs = some n) :
    n ≤ cs.length ∧ stringLiteral (cs ++ '#' :: u) = some n := by
  unfold stringLiteral at hs
  split at hs
  · next cs =>
    obtain ⟨m, hm, rfl⟩ := Option.map_eq_some_iff.mp hs
    obtain ⟨hl, hr⟩ := quotedRest_hash hu h.tail (m := (cs ++ '#' :: u).length + 1) (by simp) hm
    rw [List.cons_append, stringLiteral, hr]
    exact ⟨Nat.succ_le_succ hl, rfl⟩
  · exact nomatch hs

lemma charLiteral_hash (hu : Unclosed ('#' :: u)) (h : Ended cs) (hs : charLiteral cs = some n) :
    n ≤ cs.length ∧ charLiteral (cs ++ '#' :: u) = some n := by
  unfold charLiteral at hs
  split at hs
  · next cs =>
    obtain ⟨m, hm, rfl⟩ := Option.map_eq_some_iff.mp hs
    obtain ⟨hl, hr⟩ := quotedRest_hash hu h.tail (m := (cs ++ '#' :: u).length + 1) (by simp) hm
    rw [List.cons_append, charLiteral, hr]
    exact ⟨Nat.succ_le_succ hl, rfl⟩
  · exact nomatch hs

lemma stringLiteral_of_head (h : cs.head? ≠ some '"') : stringLiteral cs = none := by
  unfold stringLiteral
  split
  · simp at h
  · rfl

lemma literal_hash {before : Nat} {r : Class × Nat} (hu : Unclosed ('#' :: u)) (h : Ended cs)
    (hr : literal before cs = some r) : r.2 ≤ before + cs.length ∧ literal before (cs ++ '#' :: u) = some r := by
  rw [literal] at hr
  cases hs : stringLiteral cs with
  | some n =>
    rw [hs] at hr
    obtain rfl := Option.some.inj hr
    obtain ⟨hl, hs'⟩ := stringLiteral_hash hu h hs
    rw [literal, hs']
    exact ⟨Nat.add_le_add_left hl before, rfl⟩
  | none =>
    rw [hs] at hr
    obtain ⟨n, hn, rfl⟩ := Option.map_eq_some_iff.mp hr
    obtain ⟨hl, hc⟩ := charLiteral_hash hu h hn
    have hh : (cs ++ '#' :: u).head? ≠ some '"' := by
      unfold charLiteral at hn
      split at hn
      · simp
      · exact nomatch hn
    rw [literal, stringLiteral_of_head hh, hc]
    exact ⟨Nat.add_le_add_left hl before, rfl⟩

lemma find?_hash {ms : List String} (hm : ∀ m ∈ ms, '#' ∉ m.toList) (cs : List Char) :
    ms.find? (fun m => m.toList.isPrefixOf (cs ++ '#' :: u)) = ms.find? (fun m => m.toList.isPrefixOf cs) := by
  induction ms with
  | nil => rfl
  | cons m ms ih =>
    obtain ⟨hm, hms⟩ := List.forall_mem_cons.mp hm
    simp only [List.find?_cons, isPrefixOf_hash hm, ih hms]

lemma find?_le {ms : List String} {m : String} (h : ms.find? (fun m => m.toList.isPrefixOf cs) = some m) :
    m.length ≤ cs.length := by
  have hp : m.toList.isPrefixOf cs = true := List.find?_some (p := fun m : String => m.toList.isPrefixOf cs) h
  rw [← String.length_toList]
  exact (List.isPrefixOf_iff_prefix.mp hp).length_le

lemma mark_eq (cs : List Char) :
    mark cs = match longMarks.find? (fun m => m.toList.isPrefixOf cs) with
      | some m => m.length
      | none => if cs.head?.any shortMarks.contains then 1 else 0 := by
  rw [mark.eq_def]
  cases cs <;> rfl

lemma mark_hash (cs : List Char) : mark (cs ++ '#' :: u) = mark cs := by
  have hh : (cs ++ '#' :: u).head?.any shortMarks.contains = cs.head?.any shortMarks.contains := by
    cases cs <;> rfl
  rw [mark_eq, find?_hash (by decide), hh, mark_eq]

lemma mark_le (cs : List Char) : mark cs ≤ cs.length := by
  rw [mark_eq]
  split
  · next m hm => exact find?_le hm
  · cases cs with
    | nil => exact Nat.le_refl 0
    | cons c cs => split_ifs <;> simp

lemma read_eq (cs : List Char) :
    read cs = match identifier cs with
      | n + 1 =>
        if encodings.contains (String.ofList (cs.take (n + 1))) &&
            ((cs.drop (n + 1)).head? == some '"' || (cs.drop (n + 1)).head? == some '\'') then
          literal (n + 1) (cs.drop (n + 1))
        else some (.word, n + 1)
      | 0 =>
        match number cs with
        | n + 1 => some (.number, n + 1)
        | 0 =>
          if cs.head? == some '"' || cs.head? == some '\'' then literal 0 cs
          else match mark cs with
            | 0 => none
            | n => some (.mark, n) := by
  rw [read.eq_def]
  cases identifier cs with
  | succ n => rfl
  | zero =>
    cases number cs with
    | succ n => rfl
    | zero =>
      dsimp only
      split
      · rfl
      · rfl
      · have hquote : ¬ (cs.head? == some '"' || cs.head? == some '\'') = true := by
          cases cs <;> simp_all
        rewrite [if_neg hquote]
        rfl

lemma head?_hash {q : Char} (hq : '#' ≠ q) (cs : List Char) :
    ((cs ++ '#' :: u).head? == some q) = (cs.head? == some q) := by
  cases cs with
  | nil => simp [hq]
  | cons c cs => rfl

lemma read_hash {r : Class × Nat} (hu : Unclosed ('#' :: u)) (h : Ended cs) (hr : read cs = some r) :
    r.2 ≤ cs.length ∧ read (cs ++ '#' :: u) = some r := by
  have hi := identifier_le cs
  have hn := number_le cs
  have hm := mark_le cs
  rw [read_eq] at hr
  rw [read_eq, identifier_hash, number_hash, mark_hash, head?_hash (by decide), head?_hash (by decide)]
  cases hid : identifier cs with
  | succ n =>
    rw [hid] at hr hi
    dsimp only at hr ⊢
    rw [List.take_append_of_le_length hi, List.drop_append_of_le_length hi, head?_hash (by decide),
      head?_hash (by decide)]
    split_ifs at hr ⊢
    · obtain ⟨hl, hr⟩ := literal_hash hu (h.drop (n + 1)) hr
      rw [List.length_drop] at hl
      exact ⟨by omega, hr⟩
    · obtain rfl := Option.some.inj hr
      exact ⟨hi, rfl⟩
  | zero =>
    rw [hid] at hr
    dsimp only at hr ⊢
    cases hnum : number cs with
    | succ n =>
      rw [hnum] at hr hn
      obtain rfl := Option.some.inj hr
      exact ⟨hn, rfl⟩
    | zero =>
      rw [hnum] at hr
      dsimp only at hr ⊢
      split_ifs at hr ⊢
      · simpa using literal_hash hu h hr
      · cases hmark : mark cs with
        | zero => rw [hmark] at hr; exact nomatch hr
        | succ n =>
          rw [hmark] at hr hm
          obtain rfl := Option.some.inj hr
          exact ⟨hm, rfl⟩

end Quadrature.C.Lexeme
