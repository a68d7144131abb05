import Quadrature.Proofs.Comments

/-! Texts that the scanner takes apart as they were written. -/

namespace Quadrature.C.Scan

open Lexeme

variable {s s' s'' : State} {cs cs' ds rest body : List Char} {ps qs : List Piece}

def Reaches (s : State) (cs : List Char) (s' : State) (cs' : List Char) : Prop :=
  ∀ fuel, cs.length ≤ fuel → ∃ fuel', cs'.length ≤ fuel' ∧ run fuel s cs = run fuel' s' cs'

lemma Reaches.refl (s : State) (cs : List Char) : Reaches s cs s cs := fun fuel h => ⟨fuel, h, rfl⟩

lemma Reaches.trans (h : Reaches s cs s' cs') (h' : Reaches s' cs' s'' rest) : Reaches s cs s'' rest := by
  intro fuel hf
  obtain ⟨fuel', hf', he⟩ := h fuel hf
  obtain ⟨fuel'', hf'', he'⟩ := h' fuel' hf'
  exact ⟨fuel'', hf'', he.trans he'⟩

lemma reaches_of_step (h : step s cs = some (s', cs')) (hl : cs'.length < cs.length) :
    Reaches s cs s' cs' := by
  intro fuel hf
  cases fuel with
  | zero => omega
  | succ fuel =>
    cases cs with
    | nil => simp at hl
    | cons c cs =>
      refine ⟨fuel, by omega, ?_⟩
      rw [run, h]
      simp

lemma Reaches.run_eq (h : Reaches s cs s' []) : run cs.length s cs = .ok s' := by
  obtain ⟨fuel, -, he⟩ := h cs.length (Nat.le_refl _)
  rw [he, run]

structure Scans (s : State) (cs : List Char) (ps : List Piece) (s' : State) (rest : List Char) :
    Prop where
  reaches : Reaches s (cs ++ rest) s' rest
  frame : s'.frame = ps.foldl Frame.push s.frame
  outer : s'.outer = s.outer

lemma Scans.trans (h : Scans s cs ps s' (ds ++ rest)) (h' : Scans s' ds qs s'' rest) :
    Scans s (cs ++ ds) (ps ++ qs) s'' rest where
  reaches := by
    rw [List.append_assoc]
    exact h.reaches.trans h'.reaches
  frame := by rw [h'.frame, h.frame, List.foldl_append]
  outer := h'.outer.trans h.outer

lemma pieces_foldl_push (f : Frame) (ps : List Piece) :
    (ps.foldl Frame.push f).pieces = ps.reverse ++ f.pieces := by
  induction ps generalizing f with
  | nil => rfl
  | cons p ps ih => simp [ih, Frame.push]

lemma opener_foldl_push (f : Frame) (ps : List Piece) : (ps.foldl Frame.push f).opener = f.opener := by
  induction ps generalizing f with
  | nil => rfl
  | cons p ps ih => rw [List.foldl_cons, ih, Frame.push]

lemma pass_nil (s : State) : s.pass [] = s := by
  simp [State.pass, Position.after]

lemma takeWhile_append_stop {p : Char → Bool} (h : ∀ c ∈ cs, p c = true)
    (hr : ∀ c ∈ rest.head?, p c = false) :
    (cs ++ rest).takeWhile p = cs ∧ (cs ++ rest).dropWhile p = rest := by
  rw [List.takeWhile_append_of_pos h, List.dropWhile_append_of_pos h]
  cases rest with
  | nil => simp
  | cons d rest => simp [hr d rfl]

def Starts (cs : List Char) : Prop := ∀ c ∈ cs.head?, isSpace c = false

lemma scans_blank (s : State) (h : ∀ c ∈ cs, isSpace c = true) (hr : Starts rest) :
    Scans s cs [] (s.pass cs) rest := by
  refine ⟨?_, rfl, rfl⟩
  cases cs with
  | nil =>
    rw [pass_nil]
    exact .refl s rest
  | cons c cs =>
    obtain ⟨htake, hdrop⟩ := takeWhile_append_stop h hr
    have hlt : rest.length < (c :: cs ++ rest).length := by
      rw [List.length_append, List.length_cons]
      omega
    refine reaches_of_step ?_ hlt
    unfold step
    dsimp only [List.cons_append]
    rw [if_pos (h c List.mem_cons_self), ← List.cons_append, htake, hdrop]

lemma scans_newline (s : State) (hr : Starts rest) : Scans s ['\n'] [] (s.pass ['\n']) rest :=
  scans_blank s (Text.forall_mem_of_all (by decide)) hr

lemma step_comment {c : Char} {n : Nat} (hs : isSpace c = false) (hj : lineJoin (c :: cs) = 0)
    (hc : comment (c :: cs) = some n) :
    step s (c :: cs) = some (s.comment ((c :: cs).take n), (c :: cs).drop n) := by
  unfold step
  dsimp only
  rw [if_neg (by simp [hs]), hj, hc]

lemma scans_comment_before {text : List Char} (h : Comment rest text) (s : State) (tail : List Char) :
    Scans s text [] (s.comment text) (rest ++ tail) := by
  have hc := h.comment_append tail
  obtain ⟨cs, rfl⟩ := h.exists_cons
  have hlt : (rest ++ tail).length < ('/' :: cs ++ (rest ++ tail)).length := by
    rw [@List.length_append _ ('/' :: cs), List.length_cons]
    omega
  refine ⟨reaches_of_step ?_ hlt, rfl, rfl⟩
  rw [List.cons_append] at hc ⊢
  rw [step_comment rfl rfl hc, ← List.cons_append, List.take_left, List.drop_left]

lemma scans_comment (s : State) (h : Unclosed body) (rest : List Char) :
    Scans s ('/' :: '*' :: body ++ ['*', '/']) [] (s.comment ('/' :: '*' :: body ++ ['*', '/'])) rest :=
  scans_comment_before (@Comment.block [] body h) s rest

lemma scans_filler (h : Filler cs) (hr : Starts rest) (s : State) :
    ∃ s', Scans s cs [] s' rest ∧ s'.blank = s.blank ++ String.ofList cs := by
  induction h generalizing s with
  | blank h => exact ⟨_, scans_blank s h hr, rfl⟩
  | @comment gap text more hgap ht _ ih =>
    have hstart : Starts (text ++ (more ++ rest)) := by
      obtain ⟨ds, rfl⟩ := ht.exists_cons
      intro c hc
      obtain rfl : '/' = c := by simpa using hc
      rfl
    obtain ⟨s', hmore, hb⟩ := ih ((s.pass gap).comment text)
    refine ⟨s', ((scans_blank s hgap hstart).trans (scans_comment_before ht (s.pass gap) rest)).trans hmore, ?_⟩
    rw [hb]
    simp [State.comment, State.pass, String.append_assoc]

/-- The scanner takes a text as one lexeme, whatever it has read before. -/
structure Takes (sort : Lexeme.Class) (text rest : List Char) : Prop where
  nonempty : text ≠ []
  starts : Starts text
  step : ∀ s, step s (text ++ rest) = some (s.take (.lexeme sort) text, rest)

lemma takes_of_read {sort : Lexeme.Class} {c : Char} (hs : isSpace c = false) (hj : lineJoin (c :: cs ++ rest) = 0)
    (hc : c ∉ special) (hr : read (c :: cs ++ rest) = some (sort, (c :: cs).length)) :
    Takes sort (c :: cs) rest := by
  refine ⟨by simp, by simpa [Starts] using hs, fun s => ?_⟩
  rw [List.cons_append] at hj hr ⊢
  unfold Scan.step
  dsimp only
  rw [if_neg (by simp [hs]), hj, comment_of_not_special hc]
  dsimp only
  split <;> first
    | exact absurd (by decide) hc
    | skip
  rw [hr]
  dsimp only
  rw [← List.cons_append, List.take_left, List.drop_left]

lemma takes_word {w : List Char} (h : IsIdentifier w) (hr : Apart rest) : Takes .word w rest := by
  have hread := read_word h hr
  have hi : identifier (w ++ rest) ≠ 0 := by
    have hpos := List.length_pos_iff.mpr h.1
    rw [h.identifier_append]
    omega
  cases w with
  | nil => exact absurd rfl h.1
  | cons c cs =>
    obtain ⟨hs, hc⟩ := not_special_of_identifier hi
    exact takes_of_read hs (lineJoin_of_identifier hi) hc hread

lemma takes_mark {c : Char} (hc : c ∈ [',', ';', '*']) (hr : rest.head? ≠ some '=') :
    Takes .mark [c] rest := by
  have hclass : ∀ c ∈ [',', ';', '*'], isSpace c = false ∧ c ∉ special ∧ c ≠ '\\' :=
    Text.forall_mem_of_all (by decide)
  obtain ⟨hs, hsp, hb⟩ := hclass c hc
  have hj : lineJoin (c :: rest) = 0 := by
    unfold lineJoin
    split
    · next he => exact absurd (List.cons.inj he).1 hb
    · next he => exact absurd (List.cons.inj he).1 hb
    · rfl
  exact takes_of_read hs hj hsp (read_mark hc hr)

lemma Takes.scans {sort : Lexeme.Class} {text : List Char} (h : Takes sort text rest) (s : State) :
    Scans s text [⟨s.blank, String.ofList text, .between s.position (s.position.after text), .lexeme sort⟩]
      (s.take (.lexeme sort) text) rest := by
  refine ⟨reaches_of_step (h.step s) ?_, rfl, rfl⟩
  have := List.length_pos_iff.mpr h.nonempty
  rw [List.length_append]
  omega

structure Written where
  lead : String
  text : String
  sort : Lexeme.Class

def charsOf (ws : List Written) : List Char := ws.flatMap fun w => w.lead.toList ++ w.text.toList

def Legible : List Written → List Char → Prop
  | [], _ => True
  | w :: ws, rest =>
    (∀ c ∈ w.lead.toList, isSpace c = true) ∧ Takes w.sort w.text.toList (charsOf ws ++ rest) ∧
      Legible ws rest

structure Shows (w : Written) (p : Piece) : Prop where
  lead : p.lead = w.lead
  text : p.text = w.text
  token : p.token = .lexeme w.sort

def Filled : List Written → List Char → Prop
  | [], _ => True
  | w :: ws, rest =>
    Filler w.lead.toList ∧ Takes w.sort w.text.toList (charsOf ws ++ rest) ∧ Filled ws rest

lemma scans_filled (h : Filled ws rest) (hb : s.blank = "") :
    ∃ s' ps, Scans s (charsOf ws) ps s' rest ∧ List.Forall₂ Shows ws ps ∧ s'.blank = "" := by
  induction ws generalizing s with
  | nil => exact ⟨s, [], ⟨.refl s rest, rfl, rfl⟩, .nil, hb⟩
  | cons w ws ih =>
    obtain ⟨hlead, htake, hws⟩ := h
    have hstart : Starts (w.text.toList ++ (charsOf ws ++ rest)) := by
      intro c hc
      rw [List.head?_append_of_ne_nil _ htake.nonempty] at hc
      exact htake.starts c hc
    obtain ⟨s₁, h₁, hb₁⟩ := scans_filler hlead hstart s
    have h₂ := htake.scans s₁
    obtain ⟨s', ps, h₃, hps, hb'⟩ := ih (s := s₁.take (.lexeme w.sort) w.text.toList) hws rfl
    refine ⟨s', _, (h₁.trans h₂).trans h₃, .cons ⟨?_, ?_, rfl⟩ hps, hb'⟩
    · simp [hb₁, hb]
    · simp

lemma Legible.filled {ws : List Written} (h : Legible ws rest) : Filled ws rest := by
  induction ws with
  | nil => trivial
  | cons w ws ih => exact ⟨.blank h.1, h.2.1, ih h.2.2⟩

lemma scans_written {ws : List Written} (h : Legible ws rest) (hb : s.blank = "") :
    ∃ s' ps, Scans s (charsOf ws) ps s' rest ∧ List.Forall₂ Shows ws ps ∧ s'.blank = "" :=
  scans_filled h.filled hb

lemma scans_round (hin : Scans (s.enter .round ['(']) cs ps s' (')' :: rest)) :
    ∃ p s'', Scans s ('(' :: cs ++ [')']) [p] s'' rest ∧ p.token = .round (.ofPieces ps) ∧
      s''.blank = "" := by
  have hopen : Reaches s ('(' :: (cs ++ ')' :: rest)) (s.enter .round ['(']) (cs ++ ')' :: rest) :=
    reaches_of_step rfl (by simp)
  have hop : s'.frame.opener = .round := by rw [hin.frame, opener_foldl_push]; rfl
  have hpieces : s'.frame.pieces.reverse = ps := by
    rw [hin.frame, pieces_foldl_push]
    simp [State.enter]
  have hout : s'.outer = s.frame :: s.outer := hin.outer
  have hleave : step s' (')' :: rest) = (s'.closeBracket ')').map fun t => (t, rest) := rfl
  simp only [State.closeBracket, hop, State.leave, hout, hpieces, Option.map_some] at hleave
  have hr := hopen.trans (hin.reaches.trans (reaches_of_step hleave (by simp)))
  rw [show '(' :: (cs ++ ')' :: rest) = '(' :: cs ++ [')'] ++ rest by simp] at hr
  exact ⟨_, _, ⟨hr, rfl, rfl⟩, rfl, rfl⟩

lemma start_of_unmarked (hc : ∀ c ∈ cs.head?, c.toNat ≠ 0xFEFF) : start cs = (.initial .start, cs) := by
  cases cs with
  | nil => rfl
  | cons c cs => rw [start, if_neg (hc c rfl)]

lemma text_of_reaches (h : Reaches (.initial .start) cs s []) (hout : s.outer = [])
    (hc : ∀ c ∈ cs.head?, c.toNat ≠ 0xFEFF) : ∃ extent, text cs = .ok ⟨s.frame.pieces.reverse, extent⟩ := by
  refine ⟨.between (s.first.getD s.position) s.position, ?_⟩
  rw [text, start_of_unmarked hc]
  dsimp only
  rw [h.run_eq]
  dsimp only
  rw [hout]

lemma text_of_scans (h : Scans (.initial .start) cs ps s []) (hc : ∀ c ∈ cs.head?, c.toNat ≠ 0xFEFF) :
    ∃ extent, text cs = .ok ⟨ps, extent⟩ := by
  have hrun := h.reaches
  rw [List.append_nil] at hrun
  have hpieces : s.frame.pieces.reverse = ps := by
    rw [h.frame, pieces_foldl_push]
    simp [State.initial]
  rw [← hpieces]
  exact text_of_reaches hrun h.outer hc

end Quadrature.C.Scan
