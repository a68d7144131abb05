import Quadrature.Proofs.CommentLookahead

/-! The ends of numbers do not depend on what stands behind whole lines. -/

namespace Quadrature.C.Lexeme

variable {c : Char} {cs ds u : List Char} {p : Char → Bool} {n : Nat}

lemma digits_of_not (hc : p c = false) (cs : List Char) : digits p (c :: cs) = 0 := by
  rw [digits.eq_def]
  simp [hc]

lemma digits_quote (hc : p c = true) (ds : List Char) :
    digits p (c :: '\'' :: ds) = if ds.head?.any p then 2 + digits p ds else 1 := by
  rw [digits.eq_def]
  simp [hc]

lemma digits_plain (hc : p c = true) (h : cs.head? ≠ some '\'') :
    digits p (c :: cs) = 1 + digits p cs := by
  rw [digits.eq_def]
  simp only [hc, if_true]
  split
  · simp at h
  · rfl

lemma digits_hash (hp : p '#' = false) (cs : List Char) :
    digits p (cs ++ '#' :: u) = digits p cs := by
  fun_induction digits p cs with
  | case1 => exact digits_of_not hp u
  | case2 c hc ds hds ih =>
    obtain ⟨d, ds, rfl⟩ := List.exists_cons_of_ne_nil (l := ds) (by rintro rfl; simp at hds)
    rw [List.cons_append, List.cons_append, digits_quote hc, if_pos (by simpa using hds), ih]
  | case3 c hc ds hds =>
    rw [List.cons_append, List.cons_append, digits_quote hc, if_neg]
    cases ds with
    | nil => simp [hp]
    | cons d ds => simpa using hds
  | case4 c hc cs hq ih =>
    rw [List.cons_append, digits_plain hc, ih]
    cases cs with
    | nil => simp
    | cons d cs =>
      rintro h
      exact hq cs (by simpa using h)
  | case5 c cs hc => exact digits_of_not (by simpa using hc) _

lemma digits_le (isDigit : Char → Bool) (cs : List Char) : digits isDigit cs ≤ cs.length := by
  fun_induction digits isDigit cs with
  | case1 => exact Nat.le_refl 0
  | case2 c hc ds hds ih => simp only [List.length_cons]; omega
  | case3 c hc ds hds => simp
  | case4 c hc cs hq ih => simp only [List.length_cons]; omega
  | case5 c cs hc => exact Nat.zero_le _

def signLength : List Char → Nat
  | '+' :: _ | '-' :: _ => 1
  | _ => 0

lemma signLength_hash (cs : List Char) : signLength (cs ++ '#' :: u) = signLength cs := by
  cases cs with
  | nil => simp [signLength]
  | cons c cs =>
    unfold signLength
    split <;> split <;> simp_all

lemma signLength_le (cs : List Char) : signLength cs ≤ cs.length := by
  unfold signLength
  split <;> simp

lemma exponent_cons (c : Char) (cs : List Char) :
    exponent (c :: cs) =
      if c == 'e' || c == 'E' || c == 'p' || c == 'P' then
        match digits isHexDigit (cs.drop (signLength cs)) with
        | 0 => 1
        | n => 1 + signLength cs + n
      else 0 := rfl

lemma exponent_hash (cs : List Char) : exponent (cs ++ '#' :: u) = exponent cs := by
  cases cs with
  | nil => simp [exponent]
  | cons c cs =>
    rw [List.cons_append, exponent_cons, signLength_hash, List.drop_append_of_le_length (signLength_le cs),
      digits_hash (by decide), exponent_cons]

lemma exponent_le (cs : List Char) : exponent cs ≤ cs.length := by
  cases cs with
  | nil => exact Nat.le_refl 0
  | cons c cs =>
    have hd := digits_le isHexDigit (cs.drop (signLength cs))
    have hs := signLength_le cs
    rw [List.length_drop] at hd
    rw [exponent_cons, List.length_cons]
    split_ifs
    · cases hn : digits isHexDigit (cs.drop (signLength cs)) with
      | zero => exact Nat.succ_le_succ (Nat.zero_le _)
      | succ n =>
        rw [hn] at hd
        show 1 + signLength cs + (n + 1) ≤ cs.length + 1
        omega
    · exact Nat.zero_le _

lemma numberSuffix_hash (cs : List Char) : numberSuffix (cs ++ '#' :: u) = numberSuffix cs :=
  count_hash (by decide) cs

lemma wholeNumber_hash (cs : List Char) : wholeNumber (cs ++ '#' :: u) = wholeNumber cs := by
  have hx := fun cs => digits_hash (u := u) (p := isHexDigit) (by decide) cs
  have hd := fun cs => digits_hash (u := u) (p := Char.isDigit) (by decide) cs
  match cs with
  | [] => simpa [wholeNumber] using hd []
  | [c] =>
    have h := hd [c]
    by_cases hc : c = '0'
    · subst hc
      simpa [wholeNumber] using h
    · simpa [wholeNumber, hc] using h
  | c :: x :: cs =>
    have h := hd (c :: x :: cs)
    simp only [List.cons_append] at h
    by_cases hc : c = '0'
    · subst hc
      simp only [List.cons_append, wholeNumber, hx, hd, h]
    · simpa [wholeNumber, hc] using h

lemma wholeNumber_le (cs : List Char) : (wholeNumber cs).1 ≤ cs.length := by
  have hd := digits_le Char.isDigit cs
  unfold wholeNumber
  split
  · next x rest =>
    have hx := digits_le isHexDigit rest
    have hb := digits_le Char.isDigit rest
    simp only [List.length_cons]
    split_ifs <;> simp only [List.length_cons] at hd ⊢ <;> omega
  · exact hd

lemma mantissa_hash (cs : List Char) : mantissa (cs ++ '#' :: u) = mantissa cs := by
  have hx := fun cs => digits_hash (u := u) (p := isHexDigit) (by decide) cs
  have hd := fun cs => digits_hash (u := u) (p := Char.isDigit) (by decide) cs
  have hl := wholeNumber_le cs
  simp only [mantissa, wholeNumber_hash]
  generalize wholeNumber cs = w at hl
  obtain ⟨whole, glued⟩ := w
  simp only [List.drop_append_of_le_length hl]
  cases cs.drop whole with
  | nil => rfl
  | cons c rest =>
    by_cases hc : c = '.'
    · subst hc
      simp only [List.cons_append, hx, hd]
    · simp [hc]

lemma mantissa_le (cs : List Char) : (mantissa cs).1 ≤ cs.length := by
  have hl := wholeNumber_le cs
  simp only [mantissa]
  generalize wholeNumber cs = w at hl
  obtain ⟨whole, glued⟩ := w
  dsimp only at hl ⊢
  split
  · next rest hr =>
    have hlen := congrArg List.length hr
    have hd := digits_le Char.isDigit rest
    have hx := digits_le isHexDigit rest
    rw [List.length_drop, List.length_cons] at hlen
    split_ifs
    · split <;> dsimp only <;> omega
    · split <;> dsimp only <;> omega
  · exact hl

lemma gluedExponent_hash (last : Option Char) (cs : List Char) :
    gluedExponent last (cs ++ '#' :: u) = gluedExponent last cs := by
  cases cs with
  | nil => simp [gluedExponent]
  | cons c cs => rw [List.cons_append, gluedExponent, digits_hash (by decide), gluedExponent]

lemma gluedExponent_le (last : Option Char) (cs : List Char) : gluedExponent last cs ≤ cs.length := by
  cases cs with
  | nil => exact Nat.le_refl 0
  | cons c cs =>
    have hd := digits_le isHexDigit cs
    rw [gluedExponent, List.length_cons]
    split_ifs
    · split <;> omega
    · exact Nat.zero_le _

def exponentAfter (n : Nat) (glued : Bool) (cs : List Char) : Nat :=
  if glued && exponent (cs.drop n) = 0 then gluedExponent (cs.take n).getLast? (cs.drop n)
  else exponent (cs.drop n)

lemma number_eq (cs : List Char) :
    number cs = if (mantissa cs).1 = 0 then 0 else
      (mantissa cs).1 + exponentAfter (mantissa cs).1 (mantissa cs).2 cs +
        numberSuffix ((cs.drop (mantissa cs).1).drop (exponentAfter (mantissa cs).1 (mantissa cs).2 cs)) := by
  rw [number]
  generalize mantissa cs = m
  obtain ⟨n, glued⟩ := m
  cases n <;> rfl

lemma exponentAfter_hash {glued : Bool} (hn : n ≤ cs.length) :
    exponentAfter n glued (cs ++ '#' :: u) = exponentAfter n glued cs := by
  rw [exponentAfter, List.drop_append_of_le_length hn, List.take_append_of_le_length hn, exponent_hash,
    gluedExponent_hash, exponentAfter]

lemma exponentAfter_le (n : Nat) (glued : Bool) (cs : List Char) :
    exponentAfter n glued cs ≤ (cs.drop n).length := by
  rw [exponentAfter]
  split_ifs
  · exact gluedExponent_le _ _
  · exact exponent_le _

lemma number_hash (cs : List Char) : number (cs ++ '#' :: u) = number cs := by
  rw [number_eq, mantissa_hash, exponentAfter_hash (mantissa_le cs),
    List.drop_append_of_le_length (mantissa_le cs), List.drop_append_of_le_length (exponentAfter_le _ _ cs),
    numberSuffix_hash, number_eq]

lemma number_le (cs : List Char) : number cs ≤ cs.length := by
  have hm := mantissa_le cs
  have he := exponentAfter_le (mantissa cs).1 (mantissa cs).2 cs
  have hs : numberSuffix ((cs.drop (mantissa cs).1).drop (exponentAfter (mantissa cs).1 (mantissa cs).2 cs)) ≤ _ :=
    count_le _ _
  simp only [List.length_drop] at he hs
  rw [number_eq]
  split_ifs
  · exact Nat.zero_le _
  · omega

end Quadrature.C.Lexeme
