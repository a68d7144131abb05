import Quadrature.Proofs.WrittenWords

/-! Comments, and the blanks and comments that fill the space between lexemes. -/

namespace Quadrature.C.Lexeme

open Text

variable {own : Char → Bool} {w t cs rest : List Char}

def Unclosed (cs : List Char) : Prop := cs.IsChain fun a b => ¬ (a = '*' ∧ b = '/')

instance : DecidablePred Unclosed := fun cs => inferInstanceAs (Decidable (cs.IsChain _))

lemma unclosed_iff : Unclosed cs ↔ ¬ ['*', '/'] <:+: cs := by
  rw [Unclosed, List.isChain_iff_forall_rel_of_append_cons_cons]
  constructor
  · rintro h ⟨a, b, rfl⟩
    exact h (List.append_assoc a ['*', '/'] b) ⟨rfl, rfl⟩
  · rintro h a b l r rfl ⟨rfl, rfl⟩
    exact h ⟨l, r, List.append_assoc l ['*', '/'] r⟩

lemma blockComment_append (h : Unclosed cs) (rest : List Char) :
    blockComment (cs ++ '*' :: '/' :: rest) = some (cs.length + 2) := by
  induction cs with
  | nil => rfl
  | cons c cs ih =>
    have hc : (c = '*' && (cs ++ '*' :: '/' :: rest).head? = some '/') = false := by
      cases cs with
      | nil => simp
      | cons d cs =>
        have hcd := (List.isChain_cons_cons.mp h).1
        simpa [imp_not_comm] using hcd
    rw [List.cons_append, blockComment, hc, ih h.tail]
    rfl

lemma lineComment_newline (cs : List Char) : lineComment 0 ('\n' :: cs) = 0 := by
  rw [lineComment.eq_def]
  rfl

lemma lineComment_plain {c : Char} (hn : c ≠ '\n') (hb : c ≠ '\\') (cs : List Char) :
    lineComment 0 (c :: cs) = 1 + lineComment 0 cs := by
  rw [lineComment.eq_def]
  simp only [if_neg hn, if_pos hb]

lemma lineComment_backslash {ds : List Char} (hne : ds ≠ []) (hs : ds ≠ ['\\']) :
    lineComment 0 ('\\' :: ds) = 1 + lineComment (if ['\r', '\n'].isPrefixOf ds then 2
      else if ds.head? = some '\\' then 0 else 1) ds := by
  rw [lineComment]
  · rfl
  · exact hne
  · exact hs

lemma lineComment_append {k : Nat} (h : lineComment k (cs ++ ['\n']) = cs.length) (rest : List Char) :
    lineComment k (cs ++ '\n' :: rest) = cs.length := by
  induction cs generalizing k with
  | nil =>
    cases k with
    | zero => exact lineComment_newline rest
    | succ k => simp [lineComment] at h
  | cons c cs ih =>
    rw [List.cons_append, List.length_cons] at h
    rw [List.cons_append, List.length_cons]
    cases k with
    | succ k =>
      rw [lineComment] at h ⊢
      rw [ih (by omega)]
      omega
    | zero =>
      by_cases hn : c = '\n'
      · rw [hn, lineComment_newline] at h
        omega
      by_cases hb : c = '\\'
      · subst hb
        have hne : ∀ r : List Char, cs ++ '\n' :: r ≠ ['\\'] := by
          intro r
          cases cs <;> simp
        -- a backslash looks at the next two characters, and the second of them is the newline at the latest
        have hskip : (['\r', '\n'].isPrefixOf (cs ++ '\n' :: rest) = ['\r', '\n'].isPrefixOf (cs ++ ['\n'])) ∧
            (cs ++ '\n' :: rest).head? = (cs ++ ['\n']).head? := by
          rcases cs with _ | ⟨c, _ | ⟨d, cs⟩⟩ <;> simp [List.isPrefixOf]
        rw [lineComment_backslash (by simp) (hne [])] at h
        rw [lineComment_backslash (by simp) (hne rest), hskip.1, hskip.2, ih (by omega)]
        omega
      · rw [lineComment_plain hn hb] at h ⊢
        rw [ih (by omega)]
        omega

inductive Comment (rest : List Char) : List Char → Prop
  | block {body : List Char} : Unclosed body → Comment rest ('/' :: '*' :: body ++ ['*', '/'])
  | line {body : List Char} : lineComment 0 (body ++ ['\n']) = body.length → rest.head? = some '\n' →
      Comment rest ('/' :: '/' :: body)

lemma Comment.exists_cons {text : List Char} (h : Comment rest text) : ∃ cs, text = '/' :: cs := by
  cases h with
  | block _ => exact ⟨_, rfl⟩
  | line _ _ => exact ⟨_, rfl⟩

lemma Comment.comment_append {text : List Char} (h : Comment rest text) (tail : List Char) :
    comment (text ++ (rest ++ tail)) = some text.length := by
  cases h with
  | @block body hb =>
    have ht : '/' :: '*' :: body ++ ['*', '/'] ++ (rest ++ tail) =
        '/' :: '*' :: (body ++ '*' :: '/' :: (rest ++ tail)) := by simp
    rw [ht, comment, blockComment_append hb]
    simp
  | @line body hb hr =>
    obtain ⟨rest, rfl⟩ := List.head?_eq_some_iff.mp hr
    rw [List.cons_append, List.cons_append, List.cons_append, comment, lineComment_append hb]
    simp only [List.length_cons, Option.some.injEq]
    omega

inductive Filler : List Char → Prop
  | blank {gap : List Char} : (∀ c ∈ gap, isSpace c = true) → Filler gap
  | comment {gap text rest : List Char} : (∀ c ∈ gap, isSpace c = true) → Comment rest text → Filler rest →
      Filler (gap ++ text ++ rest)

lemma Filler.head? (h : Filler cs) : ∀ c ∈ cs.head?, isSpace c = true ∨ c = '/' := by
  cases h with
  | blank h => exact fun c hc => .inl (h c (List.mem_of_mem_head? hc))
  | @comment gap text rest hgap ht _ =>
    obtain ⟨ds, rfl⟩ := ht.exists_cons
    intro c hc
    cases gap with
    | nil => exact .inr (by simpa using hc.symm)
    | cons d gap =>
      obtain rfl : d = c := by simpa using hc
      exact .inl (hgap d List.mem_cons_self)

lemma Filler.apart (h : Filler cs) (hne : cs ≠ []) (rest : List Char) : Apart (cs ++ rest) := by
  cases cs with
  | nil => exact absurd rfl hne
  | cons c cs =>
    have hclass : (Text.isXidContinue c || c == '$') = false ∧ c ≠ '\\' ∧ c ≠ '"' ∧ c ≠ '\'' := by
      rcases h.head? c rfl with hs | rfl
      · have hb := isBlank_of_isSpace hs
        refine ⟨?_, Text.ne_of_blank hb rfl, Text.ne_of_blank hb rfl, Text.ne_of_blank hb rfl⟩
        simp [Text.isXidContinue_of_blank hb, Text.ne_of_blank hb (d := '$') rfl]
      · decide
    obtain ⟨hx, hb, hq, hq'⟩ := hclass
    exact ⟨identifierRest_eq_zero hx hb _, by simpa using hq, by simpa using hq'⟩

end Quadrature.C.Lexeme
