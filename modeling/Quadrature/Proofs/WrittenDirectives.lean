import Quadrature.Proofs.Written

/-! Directives and conditionals as the scanner takes them apart. -/

namespace Quadrature.C.Scan

open Lexeme

variable {s s' s'' : State} {cs cs' ds rest body : List Char} {ps qs : List Piece}

lemma step_directive (s : State) (cs : List Char) : step s ('#' :: cs) = directive s ('#' :: cs) := rfl

lemma name_append {w : List Char} (hne : w ≠ []) (hw : ∀ c ∈ w, c.isAlphanum = true)
    (hr : ∀ c ∈ rest.head?, (c.isAlphanum || c == '_') = false) :
    Directive.name (w ++ rest) = some (String.ofList w, w.length) := by
  have hword : (w ++ rest).takeWhile (fun c => c.isAlphanum || c == '_') = w :=
    (takeWhile_append_stop (fun c hc => by simp [hw c hc]) hr).1
  cases w with
  | nil => exact absurd rfl hne
  | cons c w =>
    have hc := hw c List.mem_cons_self
    have hgap : count (fun c => c == ' ' || c == '\t') (c :: w ++ rest) = 0 := by
      have hb : (c == ' ' || c == '\t') = false := by
        rw [Bool.or_eq_false_iff, beq_eq_false_iff_ne, beq_eq_false_iff_ne]
        exact ⟨by rintro rfl; simp at hc, by rintro rfl; simp at hc⟩
      simp [count, hb]
    have hu : (c == '_') = false := by
      rw [beq_eq_false_iff_ne]
      rintro rfl
      simp at hc
    rw [Directive.name, hgap, List.drop_zero, hword]
    simp [hu]

lemma blanks_of_identifier (h : identifier cs ≠ 0) (fuel : Nat) : blanks fuel cs = 0 := by
  cases cs with
  | nil => cases fuel <;> rfl
  | cons c cs =>
    obtain ⟨hs, hc⟩ := not_special_of_identifier h
    cases fuel with
    | zero => rfl
    | succ fuel =>
      have hd : (c :: cs).dropWhile isSpace = c :: cs := by simp [hs]
      have hn : count isSpace (c :: cs) = 0 := by simp [count, hs]
      simp only [blanks, hd, hn, lineJoin_of_identifier h, comment_of_not_special hc]

lemma named_space {w : List Char} (h : IsIdentifier w) (hr : identifierRest 0 rest = 0) :
    Directive.named (' ' :: w ++ rest) = some (w.length + 1) := by
  have hi : identifier (w ++ rest) = w.length := by rw [h.identifier_append, hr, Nat.add_zero]
  have hpos := List.length_pos_iff.mpr h.1
  have hne : identifier (w ++ rest) ≠ 0 := by omega
  obtain ⟨n, hn⟩ := Nat.exists_eq_succ_of_ne_zero hne
  have hskip : skip (' ' :: (w ++ rest)) = 1 := by
    have hb : isSpace ' ' = true := rfl
    cases hw : w ++ rest with
    | nil => simp [hw, identifier, identifierUnit] at hne
    | cons c cs =>
      rw [hw] at hne
      have hs := (not_special_of_identifier hne).1
      have hd : (' ' :: c :: cs).dropWhile isSpace = c :: cs := by simp [hb, hs]
      have hc : count isSpace (' ' :: c :: cs) = 1 := by simp [count, hb, hs]
      rw [skip, List.length_cons, blanks, hd, hc, lineJoin_of_identifier hne]
      simp only [Nat.add_zero, List.drop_succ_cons, List.drop_zero, blanks_of_identifier hne]
  simp only [Directive.named, List.cons_append, hskip, List.drop_succ_cons, List.drop_zero, hn]
  rw [← hi, hn, Nat.add_comm]

lemma measured_length {act : List Char → Option State} (text rest : List Char) :
    measured (text ++ rest) act (some text.length) = (act text).map fun t => (t, rest) := by
  simp only [measured, List.take_left, List.drop_left]

lemma step_condition {w : List Char} (s : State) {name : String} (hn : name = "ifdef" ∨ name = "ifndef")
    (h : IsIdentifier w) (hr : identifierRest 0 rest = 0) :
    step s ('#' :: name.toList ++ ' ' :: w ++ rest) =
      some (s.enter (.branch true false) ('#' :: name.toList ++ ' ' :: w), rest) := by
  have hname : Directive.name (name.toList ++ (' ' :: w ++ rest)) = some (name, name.toList.length) := by
    nth_rewrite 2 [← String.ofList_toList (s := name)]
    refine name_append (by rcases hn with rfl | rfl <;> decide) ?_ (by simp)
    rcases hn with rfl | rfl
    · exact Text.forall_mem_of_all (by decide)
    · exact Text.forall_mem_of_all (by decide)
  have ht : '#' :: name.toList ++ ' ' :: w ++ rest = '#' :: (name.toList ++ (' ' :: w ++ rest)) := by simp
  have hl : w.length + 1 + (name.toList.length + 1) = ('#' :: name.toList ++ ' ' :: w).length := by
    simp
    omega
  rw [ht, step_directive, directive, List.drop_succ_cons, List.drop_zero, hname]
  dsimp only
  rw [List.drop_succ_cons, List.drop_left, named_space h hr, Option.map_some, hl, ← ht]
  rcases hn with rfl | rfl <;> exact measured_length _ rest

lemma identifierRest_newline (rest : List Char) : identifierRest 0 ('\n' :: rest) = 0 :=
  identifierRest_eq_zero (by decide) (by decide) rest

lemma step_define {w : List Char} (s : State) (h : IsIdentifier w) (rest : List Char) :
    step s ('#' :: "define".toList ++ ' ' :: w ++ '\n' :: rest) =
      some (s.take .directive ('#' :: "define".toList ++ ' ' :: w ++ ['\n']), rest) := by
  have hname : Directive.name ("define".toList ++ (' ' :: w ++ '\n' :: rest)) =
      some ("define", "define".toList.length) :=
    name_append (by decide) (Text.forall_mem_of_all (by decide)) (by simp)
  have hd : Directive.definition (' ' :: w ++ '\n' :: rest) = some (1 + (w.length + 1)) := by
    have hdrop : (' ' :: w ++ '\n' :: rest).drop (w.length + 1) = '\n' :: rest := by simp
    rw [Directive.definition, named_space h (identifierRest_newline rest)]
    dsimp only
    rw [hdrop]
    rfl
  have ht : '#' :: "define".toList ++ ' ' :: w ++ '\n' :: rest =
      '#' :: ("define".toList ++ (' ' :: w ++ '\n' :: rest)) := by simp
  have ht' : '#' :: "define".toList ++ ' ' :: w ++ '\n' :: rest =
      '#' :: "define".toList ++ ' ' :: w ++ ['\n'] ++ rest := by simp
  have hl : 1 + (w.length + 1) + ("define".toList.length + 1) =
      ('#' :: "define".toList ++ ' ' :: w ++ ['\n']).length := by
    simp
    omega
  rw [ht, step_directive, directive, List.drop_succ_cons, List.drop_zero, hname]
  dsimp only
  rw [List.drop_succ_cons, List.drop_left, hd, Option.map_some, hl, ← ht, ht']
  exact measured_length _ rest

lemma scans_define {w : List Char} (s : State) (h : IsIdentifier w) (rest : List Char) :
    ∃ p s', Scans s ('#' :: "define".toList ++ ' ' :: w ++ ['\n']) [p] s' rest ∧ p.token = .directive := by
  have hr := reaches_of_step (step_define s h rest) (by simp; omega)
  rw [List.append_cons] at hr
  exact ⟨_, _, ⟨hr, rfl, rfl⟩, rfl⟩

lemma step_else (hs : s.allowsAlternative = true) (rest : List Char) :
    step s ('#' :: "else".toList ++ '\n' :: rest) =
      some (s.enter (.branch false true) ('#' :: "else".toList), '\n' :: rest) := by
  have hname : Directive.name ("else".toList ++ '\n' :: rest) = some ("else", "else".toList.length) :=
    name_append (by decide) (Text.forall_mem_of_all (by decide)) (by simp)
  rw [List.cons_append, step_directive, directive, List.drop_succ_cons, List.drop_zero, hname]
  dsimp only
  rw [hs]
  exact @measured_length (fun text => some (s.enter (.branch false true) text)) ('#' :: "else".toList)
    ('\n' :: rest)

lemma step_endif (hs : s.inBranch = true) (hr : ∀ c ∈ rest.head?, (c.isAlphanum || c == '_') = false) :
    step s ('#' :: "endif".toList ++ rest) =
      (s.closeConditional ('#' :: "endif".toList)).map fun t => (t, rest) := by
  have hname : Directive.name ("endif".toList ++ rest) = some ("endif", "endif".toList.length) :=
    name_append (by decide) (Text.forall_mem_of_all (by decide)) hr
  rw [List.cons_append, step_directive, directive, List.drop_succ_cons, List.drop_zero, hname]
  dsimp only
  rw [hs]
  exact measured_length ('#' :: "endif".toList) rest

def EndsName (cs : List Char) : Prop := ∀ c ∈ cs.head?, (c.isAlphanum || c == '_') = false

def opening (name : String) (w : List Char) : List Char := '#' :: name.toList ++ ' ' :: w

def closing : List Char := '#' :: "endif".toList

lemma reaches_opening {name : String} {w : List Char} (s : State) (hn : name = "ifdef" ∨ name = "ifndef")
    (h : IsIdentifier w) (rest : List Char) :
    Reaches s (opening name w ++ '\n' :: rest) (s.enter (.branch true false) (opening name w))
      ('\n' :: rest) := by
  refine reaches_of_step (step_condition s hn h (identifierRest_newline rest)) ?_
  simp [opening]
  omega

lemma scans_conditional {name : String} {w : List Char} (hn : name = "ifdef" ∨ name = "ifndef")
    (h : IsIdentifier w)
    (hin : Scans (s.enter (.branch true false) (opening name w)) ('\n' :: cs) ps s' (closing ++ rest))
    (hr : EndsName rest) :
    ∃ p s'', Scans s (opening name w ++ '\n' :: cs ++ closing) [p] s'' rest ∧
      p.token = .branch (.ofPieces ps) ∧ s''.position = s'.position.after closing := by
  have hop : s'.frame.opener = .branch true false := by rw [hin.frame, opener_foldl_push]; rfl
  have hpieces : s'.frame.pieces.reverse = ps := by
    rw [hin.frame, pieces_foldl_push]
    simp [State.enter]
  have hout : s'.outer = s.frame :: s.outer := hin.outer
  have hchain : closeChained s'.frame (s.frame :: s.outer) = (s'.frame, s.frame :: s.outer) := by
    simp only [closeChained, hop]
  have hclose := step_endif (s := s') (by simp [State.inBranch, hop]) hr
  simp only [State.closeConditional, hout, hchain, hpieces, State.leave, Option.map_some] at hclose
  have hlast := reaches_of_step hclose (by simp; omega)
  have hreach := (reaches_opening s hn h (cs ++ (closing ++ rest))).trans (hin.reaches.trans hlast)
  rw [← List.cons_append, ← List.append_assoc, ← List.append_assoc] at hreach
  exact ⟨_, _, ⟨hreach, rfl, rfl⟩, rfl, rfl⟩

lemma scans_alternative {name : String} {w blank : List Char} (hn : name = "ifdef" ∨ name = "ifndef")
    (h : IsIdentifier w) (hb : ∀ c ∈ blank, isSpace c = true)
    (hin : Scans (((s.enter (.branch true false) (opening name w)).pass ('\n' :: blank)).enter
      (.branch false true) ('#' :: "else".toList)) ('\n' :: cs) ps s' (closing ++ rest))
    (hr : EndsName rest) :
    ∃ p q s'', Scans s (opening name w ++ '\n' :: blank ++ ('#' :: "else".toList) ++ '\n' :: cs ++ closing)
        [p] s'' rest ∧
      p.token = .branch (.ofPieces [q]) ∧ q.token = .branch (.ofPieces ps) := by
  set t := s.enter (.branch true false) (opening name w) with ht
  have hop : s'.frame.opener = .branch false true := by rw [hin.frame, opener_foldl_push]; rfl
  have hpieces : s'.frame.pieces.reverse = ps := by
    rw [hin.frame, pieces_foldl_push]
    simp [State.enter]
  have hout : s'.outer = t.frame :: s.frame :: s.outer := hin.outer
  -- `#endif` closes both frames, that of the alternative first
  have hchain : closeChained s'.frame (t.frame :: s.frame :: s.outer) =
      (t.frame.push (s'.frame.closeBranch "" s'.frame.stop), s.frame :: s.outer) := by
    simp only [closeChained, hop, Frame.push, ht, State.enter]
  have hclose := step_endif (s := s') (by simp [State.inBranch, hop]) hr
  simp only [State.closeConditional, hout, hchain, State.leave, Option.map_some] at hclose
  have hlast := reaches_of_step hclose (by simp; omega)
  have hopen := reaches_opening s hn h (blank ++ ('#' :: "else".toList ++ '\n' :: (cs ++ (closing ++ rest))))
  have hblank : Scans t ('\n' :: blank) [] (t.pass ('\n' :: blank))
      ('#' :: "else".toList ++ '\n' :: (cs ++ (closing ++ rest))) := by
    refine scans_blank t (List.forall_mem_cons.mpr ⟨rfl, hb⟩) fun c hc => ?_
    obtain rfl : '#' = c := by simpa using hc
    rfl
  have helse := reaches_of_step (step_else (s := t.pass ('\n' :: blank)) rfl (cs ++ (closing ++ rest)))
    (by simp)
  have hreach := hopen.trans (hblank.reaches.trans (helse.trans (hin.reaches.trans hlast)))
  have he : opening name w ++ '\n' :: (blank ++ ('#' :: "else".toList ++ '\n' :: (cs ++ (closing ++ rest)))) =
      opening name w ++ '\n' :: blank ++ ('#' :: "else".toList) ++ '\n' :: cs ++ closing ++ rest := by
    simp
  rw [he] at hreach
  refine ⟨_, s'.frame.closeBranch "" s'.frame.stop, _, ⟨hreach, rfl, rfl⟩, ?_, ?_⟩
  · rfl
  · simp [Frame.closeBranch, Frame.close, hpieces]

end Quadrature.C.Scan
