import Quadrature.Proofs.DirectiveLookahead

/-! Definitions and inclusions are measured without what stands behind whole lines. -/

namespace Quadrature.C.Directive

open Lexeme

variable {cs u : List Char} {n : Nat}

lemma parameter_hash (cs : List Char) : parameter (cs ++ '#' :: u) = parameter cs := by
  rw [parameter, isPrefixOf_hash (by decide), identifier_hash, parameter]

lemma parameter_le (cs : List Char) : parameter cs ≤ cs.length := by
  rw [parameter]
  split_ifs with hp
  · exact (List.isPrefixOf_iff_prefix.mp hp).length_le
  · exact identifier_le cs

def parametersBehind (fuel gap n : Nat) (cs : List Char) : Option Nat :=
  match cs.drop (n + skip (cs.drop n)) with
  | ')' :: _ => some (gap + n + skip (cs.drop n) + 1)
  | ',' :: rest => (parameters false fuel rest).map (· + (gap + n + skip (cs.drop n) + 1))
  | _ => none

lemma parameters_succ (first : Bool) (k : Nat) (cs : List Char) :
    parameters first (k + 1) cs =
      match cs.drop (skip cs) with
      | [] => none
      | c :: rest =>
        if c = ')' && first then some (skip cs + 1)
        else if parameter (c :: rest) = 0 then none
        else parametersBehind k (skip cs) (parameter (c :: rest)) (c :: rest) := by
  rw [parameters]
  cases cs.drop (skip cs) with
  | nil => rfl
  | cons c rest =>
    dsimp only
    cases parameter (c :: rest) <;> rfl

lemma parameters_hash {first : Bool} {k m : Nat} (hu : Unclosed ('#' :: u)) (h : Ended cs) (hkm : k ≤ m)
    (hn : parameters first k cs = some n) :
    n ≤ cs.length ∧ parameters first m (cs ++ '#' :: u) = some n := by
  induction k generalizing first cs m n with
  | zero => exact nomatch hn
  | succ k ih =>
    obtain ⟨m, rfl⟩ := Nat.exists_eq_succ_of_ne_zero (Nat.ne_zero_of_lt hkm)
    have hbehind : ∀ {gap i j : Nat} {cs : List Char}, Ended cs → i ≤ cs.length →
        parametersBehind k gap i cs = some j →
        j ≤ gap + cs.length ∧ parametersBehind m gap i (cs ++ '#' :: u) = some j := by
      intro gap i j cs h hi hj
      have hb := skip_le (cs.drop i)
      rw [List.length_drop] at hb
      rw [parametersBehind] at hj
      rw [parametersBehind, List.drop_append_of_le_length hi, skip_hash hu (h.drop i)]
      generalize skip (cs.drop i) = back at hj hb
      rw [List.drop_append_of_le_length (by omega)]
      have hafter := h.drop (i + back)
      have hlen : (cs.drop (i + back)).length = cs.length - (i + back) := List.length_drop
      split at hj
      · next hd =>
        rw [hd, List.length_cons] at hlen
        obtain rfl := Option.some.inj hj
        rw [hd, List.cons_append]
        exact ⟨by omega, rfl⟩
      · next rest hd =>
        rw [hd] at hafter
        rw [hd, List.length_cons] at hlen
        obtain ⟨a, ha, rfl⟩ := Option.map_eq_some_iff.mp hj
        obtain ⟨hle, ht⟩ := ih hafter.tail (Nat.le_of_succ_le_succ hkm) ha
        rw [hd, List.cons_append]
        refine ⟨by omega, ?_⟩
        simp only [ht, Option.map_some]
      · exact nomatch hj
    have hs := skip_le cs
    have hlen : (cs.drop (skip cs)).length = cs.length - skip cs := List.length_drop
    rw [parameters_succ] at hn
    rw [Nat.succ_eq_add_one, parameters_succ, skip_hash hu h, List.drop_append_of_le_length hs]
    have hrest := h.drop (skip cs)
    generalize cs.drop (skip cs) = rest at hn hrest hlen
    cases rest with
    | nil => exact nomatch hn
    | cons c rest =>
      have hp := parameter_hash (u := u) (c :: rest)
      rw [List.cons_append] at hp ⊢
      dsimp only at hn ⊢
      rw [hp]
      split_ifs at hn ⊢
      · obtain rfl := Option.some.inj hn
        rw [List.length_cons] at hlen
        exact ⟨by omega, rfl⟩
      · obtain ⟨hle, ht⟩ := hbehind hrest (parameter_le (c :: rest)) hn
        exact ⟨by omega, ht⟩

lemma definition_paren {j : Nat} {rest : List Char} (hj : named cs = some j) (hd : cs.drop j = '(' :: rest) :
    definition cs = (parameters true (rest.length + 1) rest).bind fun m =>
      (other (rest.drop m)).map (· + (j + 1 + m)) := by
  rw [definition.eq_def, hj]
  dsimp only
  split
  · next rest' he =>
    obtain rfl : rest = rest' := by simpa using hd.symm.trans he
    cases parameters true (rest.length + 1) rest <;> rfl
  · next he => exact absurd hd (he rest)

lemma definition_plain {j : Nat} (hj : named cs = some j) (hd : (cs.drop j).head? ≠ some '(') :
    definition cs = (other (cs.drop j)).map (· + j) := by
  rw [definition.eq_def, hj]
  dsimp only
  split
  · next he => simp [he] at hd
  · rfl

lemma definition_hash (hu : Unclosed ('#' :: u)) (h : Ended cs) (hn : definition cs = some n) :
    n ≤ cs.length ∧ definition (cs ++ '#' :: u) = some n := by
  cases hname : named cs with
  | none => rw [definition.eq_def, hname] at hn; exact nomatch hn
  | some j =>
    have hj := named_le hname
    have hname' : named (cs ++ '#' :: u) = some j := (named_hash hu h).trans hname
    have hlen : (cs.drop j).length = cs.length - j := List.length_drop
    have hrest := h.drop j
    have hd : (cs ++ '#' :: u).drop j = cs.drop j ++ '#' :: u := List.drop_append_of_le_length hj
    by_cases hc : (cs.drop j).head? = some '('
    · obtain ⟨rest, hp⟩ := List.head?_eq_some_iff.mp hc
      rw [hp] at hrest
      rw [hp, List.length_cons] at hlen
      rw [definition_paren hname hp] at hn
      obtain ⟨m, hm, hn⟩ := Option.bind_eq_some_iff.mp hn
      obtain ⟨i, hi, rfl⟩ := Option.map_eq_some_iff.mp hn
      obtain ⟨hle, hm'⟩ := parameters_hash hu hrest.tail (m := (rest ++ '#' :: u).length + 1) (by simp) hm
      obtain ⟨hle', ho⟩ := other_hash hu (hrest.tail.drop m) hi
      rw [List.length_drop] at hle'
      rw [definition_paren hname' (hd.trans (by rw [hp, List.cons_append])), hm', Option.bind_some,
        List.drop_append_of_le_length hle, ho]
      exact ⟨by omega, rfl⟩
    · rw [definition_plain hname hc] at hn
      obtain ⟨i, hi, rfl⟩ := Option.map_eq_some_iff.mp hn
      obtain ⟨hle, ho⟩ := other_hash hu hrest hi
      rw [definition_plain hname', hd, ho]
      · exact ⟨by omega, rfl⟩
      · rw [hd]
        cases hcs : cs.drop j with
        | nil => simp
        | cons c rest => simpa [hcs] using hc

lemma count_of_ended {p : Char → Bool} (hp : p '\n' = false) (h : Ended cs) (hne : cs ≠ []) :
    count p (cs ++ '#' :: u) = count p cs ∧ count p cs < cs.length := by
  induction cs with
  | nil => exact absurd rfl hne
  | cons c cs ih =>
    by_cases hc : p c = true
    · have hn : c ≠ '\n' := by
        rintro rfl
        simp [hp] at hc
      obtain ⟨he, hl⟩ := ih h.tail (h.tail_ne_nil hn)
      simp only [count, List.cons_append, List.takeWhile_cons, hc, if_true, List.length_cons] at he hl ⊢
      exact ⟨by rw [he], Nat.succ_lt_succ hl⟩
    · simp [count, hc]

lemma systemFile_hash (h : Ended cs) (hn : systemFile cs = some n) :
    n ≤ cs.length ∧ systemFile (cs ++ '#' :: u) = some n := by
  unfold systemFile at hn
  split at hn
  · next rest =>
    obtain ⟨he, hl⟩ := count_of_ended (u := u) (p := fun c => c != '>' && c != '\n') rfl h.tail
      (h.tail_ne_nil (by decide))
    dsimp only at hn
    rw [List.cons_append, systemFile, he]
    generalize count (fun c => c != '>' && c != '\n') rest = k at hn hl
    rw [List.drop_append_of_le_length (Nat.le_of_lt hl), head?_hash (by decide)]
    split_ifs at hn ⊢
    obtain rfl := Option.some.inj hn
    exact ⟨Nat.succ_le_succ hl, rfl⟩
  · exact nomatch hn

def includedFile (cs : List Char) : Option Nat :=
  (stringLiteral cs).or ((systemFile cs).or
    (match identifier cs with
      | 0 => none
      | n => some n))

lemma inclusion_eq (cs : List Char) :
    inclusion cs = (includedFile (cs.drop (skip cs))).bind fun n =>
      (lineTail ((cs.drop (skip cs)).length + 1) ((cs.drop (skip cs)).drop n)).map (· + (skip cs + n)) := by
  unfold inclusion
  dsimp only
  split
  · next n h =>
    have hfile : includedFile (cs.drop (skip cs)) = some n := h
    rw [hfile, Option.bind_some]
  · next h =>
    have hfile : includedFile (cs.drop (skip cs)) = none := h
    rw [hfile, Option.bind_none]

lemma systemFile_of_head (h : cs.head? ≠ some '<') : systemFile cs = none := by
  unfold systemFile
  split
  · simp at h
  · rfl

lemma includedFile_hash (hu : Unclosed ('#' :: u)) (h : Ended cs) (hn : includedFile cs = some n) :
    n ≤ cs.length ∧ includedFile (cs ++ '#' :: u) = some n := by
  rw [includedFile] at hn
  cases hs : stringLiteral cs with
  | some i =>
    rw [hs] at hn
    obtain rfl := Option.some.inj hn
    obtain ⟨hl, hs'⟩ := stringLiteral_hash hu h hs
    rw [includedFile, hs']
    exact ⟨hl, rfl⟩
  | none =>
    rw [hs, Option.none_or] at hn
    -- what names a file otherwise starts with no quote, and a name with no bracket
    cases cs with
    | nil => exact nomatch hn
    | cons c cs =>
      have hword : ∀ c ∈ ['"', '<'], identifier (c :: cs) = 0 := by
        have ho : ∀ c ∈ ['"', '<'], (Text.isXidStart c || c == '_' || c == '$') = false ∧ c ≠ '\\' :=
          Text.forall_mem_of_all (by decide)
        exact fun c hc => identifier_eq_zero (ho c hc).1 (ho c hc).2 cs
      have hq : c ≠ '"' := by
        rintro rfl
        rw [hword '"' (by simp), systemFile_of_head (by simp)] at hn
        exact nomatch hn
      rw [includedFile, stringLiteral_of_head (by simpa using hq), Option.none_or]
      cases hf : systemFile (c :: cs) with
      | some i =>
        rw [hf] at hn
        obtain rfl := Option.some.inj hn
        obtain ⟨hl, hf'⟩ := systemFile_hash (u := u) h hf
        rw [hf']
        exact ⟨hl, rfl⟩
      | none =>
        rw [hf, Option.none_or] at hn
        have hi := identifier_le (c :: cs)
        have hb : c ≠ '<' := by
          rintro rfl
          rw [hword '<' (by simp)] at hn
          exact nomatch hn
        rw [systemFile_of_head (by simpa using hb), Option.none_or, identifier_hash]
        refine ⟨?_, hn⟩
        split at hn
        · exact nomatch hn
        · exact Option.some.inj hn ▸ hi

lemma inclusion_hash (hu : Unclosed ('#' :: u)) (h : Ended cs) (hn : inclusion cs = some n) :
    n ≤ cs.length ∧ inclusion (cs ++ '#' :: u) = some n := by
  have hs := skip_le cs
  have hlen : (cs.drop (skip cs)).length = cs.length - skip cs := List.length_drop
  have hrest := h.drop (skip cs)
  rw [inclusion_eq] at hn
  rw [inclusion_eq, skip_hash hu h, List.drop_append_of_le_length hs]
  generalize cs.drop (skip cs) = rest at hn hlen hrest
  obtain ⟨i, hi, hn⟩ := Option.bind_eq_some_iff.mp hn
  obtain ⟨j, hj, rfl⟩ := Option.map_eq_some_iff.mp hn
  obtain ⟨hle, hf⟩ := includedFile_hash hu hrest hi
  obtain ⟨hle', ht⟩ := lineTail_hash hu (hrest.drop i) (m := (rest ++ '#' :: u).length + 1) (by simp) hj
  rw [List.length_drop] at hle'
  rw [hf, Option.bind_some, List.drop_append_of_le_length hle, ht]
  exact ⟨by omega, rfl⟩

end Quadrature.C.Directive
