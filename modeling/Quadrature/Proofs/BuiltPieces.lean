import Quadrature.C.Scan
import Mathlib.Data.List.Basic

/-! Every piece of a scanned text is a lexeme, a directive, or a group that is read from pieces of the same
kind: what one step keeps of the open groups, a whole run keeps. -/

namespace Quadrature.C

inductive Piece.Built : Piece → Prop
  | lexeme {p : Piece} {sort : Lexeme.Class} : p.token = .lexeme sort → Built p
  | directive {p : Piece} : p.token = .directive → Built p
  | round {p : Piece} {ps : List Piece} : (∀ q ∈ ps, Built q) → p.token = .round (.ofPieces ps) → Built p
  | square {p : Piece} {ps : List Piece} {closing : String} : (∀ q ∈ ps, Built q) →
      p.token = .square (.ofPieces ps closing) → Built p
  | curly {p : Piece} {ps : List Piece} : (∀ q ∈ ps, Built q) → p.token = .curly (.ofPieces ps) → Built p
  | branch {p : Piece} {ps : List Piece} : (∀ q ∈ ps, Built q) → p.token = .branch (.ofPieces ps) → Built p

namespace Scan

variable {s s' : State} {f : Frame} {outer : List Frame} {p : Piece} {token : Token} {cs : List Char}
  {r : State × List Char}

def Frame.Built (f : Frame) : Prop := ∀ p ∈ f.pieces, p.Built

lemma Frame.Built.push (h : f.Built) (hp : p.Built) : (f.push p).Built :=
  List.forall_mem_cons.mpr ⟨hp, h⟩

lemma Frame.Built.reverse (h : f.Built) : ∀ p ∈ f.pieces.reverse, p.Built :=
  fun p hp => h p (List.mem_reverse.mp hp)

structure State.Built (s : State) : Prop where
  frame : s.frame.Built
  outer : ∀ f ∈ s.outer, f.Built

lemma State.Built.take (h : s.Built) (ht : token = .directive ∨ ∃ sort, token = .lexeme sort) :
    (s.take token cs).Built := by
  refine ⟨h.frame.push ?_, h.outer⟩
  rcases ht with rfl | ⟨sort, rfl⟩
  · exact .directive rfl
  · exact .lexeme rfl

lemma State.Built.enter (h : s.Built) (opener : Opener) : (s.enter opener cs).Built :=
  ⟨fun _ hp => absurd hp List.not_mem_nil, List.forall_mem_cons.mpr ⟨h.frame, h.outer⟩⟩

lemma State.Built.leave (h : s.Built) (hl : s.leave token cs = some s')
    (ht : ∀ q : Piece, q.token = token → q.Built) : s'.Built := by
  rw [State.leave] at hl
  split at hl
  · cases hl
  · next parent outer ho =>
    have houter := h.outer
    rw [ho, List.forall_mem_cons] at houter
    obtain rfl := Option.some.inj hl
    exact ⟨houter.1.push (ht _ rfl), houter.2⟩

lemma State.Built.closeBracket (h : s.Built) {c : Char} (hl : s.closeBracket c = some s') : s'.Built := by
  unfold State.closeBracket at hl
  dsimp only at hl
  split at hl
  · exact h.leave hl fun q hq => .round h.frame.reverse hq
  · exact h.leave hl fun q hq => .square h.frame.reverse hq
  · exact h.leave hl fun q hq => .curly h.frame.reverse hq
  · cases hl

lemma closeChained_built (hf : f.Built) (ho : ∀ g ∈ outer, g.Built) :
    (closeChained f outer).1.Built ∧ ∀ g ∈ (closeChained f outer).2, g.Built := by
  induction outer generalizing f with
  | nil => exact ⟨hf, ho⟩
  | cons parent outer ih =>
    rw [closeChained]
    split
    · obtain ⟨hparent, houter⟩ := List.forall_mem_cons.mp ho
      exact ih (hparent.push (.branch hf.reverse rfl)) houter
    · exact ⟨hf, ho⟩

lemma State.Built.closeConditional (h : s.Built) (hl : s.closeConditional cs = some s') : s'.Built := by
  obtain ⟨hf, ho⟩ := closeChained_built h.frame h.outer
  rw [State.closeConditional] at hl
  exact State.Built.leave ⟨hf, ho⟩ hl fun q hq => .branch hf.reverse hq

lemma measured_built {act : List Char → Option State} {length : Option Nat} (h : measured cs act length = some r)
    (ha : ∀ text s', act text = some s' → s'.Built) : r.1.Built := by
  unfold measured at h
  split at h
  · obtain ⟨s', hs, rfl⟩ := Option.map_eq_some_iff.mp h
    exact ha _ s' hs
  · cases h

lemma State.Built.directive (h : s.Built) (hd : Scan.directive s cs = some r) : r.1.Built := by
  have htake : ∀ text s', some (s.take .directive text) = some s' → s'.Built :=
    fun text s' he => Option.some.inj he ▸ h.take (.inl rfl)
  have henter : ∀ opener text s', some (s.enter opener text) = some s' → s'.Built :=
    fun opener text s' he => Option.some.inj he ▸ h.enter opener
  unfold Scan.directive at hd
  split at hd
  · cases hd
  · dsimp only at hd
    split at hd
    · exact measured_built hd htake
    · exact measured_built hd htake
    · exact measured_built hd (henter _)
    · exact measured_built hd (henter _)
    · exact measured_built hd (henter _)
    · split_ifs at hd
      · exact measured_built hd (henter _)
      · exact measured_built hd (henter _)
      · exact measured_built hd (henter _)
      · exact measured_built hd fun text s' he => h.closeConditional he
      · exact measured_built hd htake

lemma State.Built.step (h : s.Built) (hs : Scan.step s cs = some r) : r.1.Built := by
  cases cs with
  | nil => cases hs
  | cons c rest =>
    have hclose : (s.closeBracket c).map (fun s' => (s', rest)) = some r → r.1.Built := by
      intro hr
      obtain ⟨s', hs', rfl⟩ := Option.map_eq_some_iff.mp hr
      exact h.closeBracket hs'
    unfold Scan.step at hs
    dsimp only at hs
    split_ifs at hs
    · obtain rfl := Option.some.inj hs
      exact ⟨h.frame, h.outer⟩
    · split at hs
      · obtain rfl := Option.some.inj hs
        exact ⟨h.frame, h.outer⟩
      · split at hs
        · obtain rfl := Option.some.inj hs
          exact ⟨h.frame, h.outer⟩
        · split at hs
          · exact h.directive hs
          · exact Option.some.inj hs ▸ h.enter _
          · exact Option.some.inj hs ▸ h.enter _
          · exact Option.some.inj hs ▸ h.enter _
          · exact hclose hs
          · exact hclose hs
          · exact hclose hs
          · split at hs
            · next sort n _ => exact Option.some.inj hs ▸ h.take (.inr ⟨sort, rfl⟩)
            · cases hs

lemma State.Built.run {fuel : Nat} (h : s.Built) (hr : Scan.run fuel s cs = .ok s') : s'.Built := by
  induction fuel generalizing s cs with
  | zero =>
    cases cs with
    | nil => exact Except.ok.inj hr ▸ h
    | cons c cs => cases hr
  | succ fuel ih =>
    cases cs with
    | nil => exact Except.ok.inj hr ▸ h
    | cons c cs =>
      rw [Scan.run] at hr
      split at hr
      · next s₁ rest hs => exact ih (h.step hs) hr
      · cases hr
      · simp

lemma built_initial (p : Position) : (State.initial p).Built :=
  ⟨fun _ hq => absurd hq List.not_mem_nil, fun _ hf => absurd hf List.not_mem_nil⟩

lemma built_of_text {scanned : Scanned} (h : text cs = .ok scanned) : ∀ p ∈ scanned.pieces, p.Built := by
  have hstart : (start cs).1.Built := by
    unfold start
    split
    · split_ifs <;> exact built_initial _
    · exact built_initial _
  unfold text at h
  dsimp only at h
  split at h
  · cases h
  · next s hr =>
    split at h
    · obtain rfl := Except.ok.inj h
      exact (hstart.run hr).frame.reverse
    · cases h

end Scan

end Quadrature.C
