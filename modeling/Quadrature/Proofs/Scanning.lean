import Quadrature.Proofs.Lexemes
import Quadrature.Proofs.Sites

/-! The scanner puts every piece where it stands in the text: what one step keeps of the open groups, a
whole run keeps. -/

namespace Quadrature.C.Scan

open Text

variable {done cs : List Char} {s s' : State} {f : Frame} {outer : List Frame} {p : Piece} {token : Token}
  {r : State × List Char}

inductive Stacked (done : List Char) : Frame → List Frame → Prop
  | unit {f : Frame} : Row done f.pieces.reverse → Stacked done f []
  | group {f parent : Frame} {outer : List Frame} : Row done f.pieces.reverse → Begins done f.start →
      Stacked done parent outer → Stacked done f (parent :: outer)

lemma Stacked.row (h : Stacked done f outer) : Row done f.pieces.reverse := by
  cases h with
  | unit h => exact h
  | group h _ _ => exact h

lemma Stacked.mono (h : Stacked done f outer) (more : List Char) : Stacked (done ++ more) f outer := by
  induction h with
  | unit h => exact .unit (h.mono more)
  | group h hb _ ih => exact .group (h.mono more) (hb.mono more) ih

lemma Stacked.push (h : Stacked done f outer) (hb : Begins done p.extent.first)
    (hs : p.token.Sited done) (hc : p.Closes done) : Stacked done (f.push p) outer := by
  have hr : Row done (f.push p).pieces.reverse := by
    rw [Frame.push, List.reverse_cons]
    exact h.row.concat hb hs hc
  cases h with
  | unit _ => exact .unit hr
  | group _ hf ho => exact .group hr hf ho

lemma Stacked.closeChained (h : Stacked done f outer) :
    Stacked done (Scan.closeChained f outer).1 (Scan.closeChained f outer).2 := by
  induction outer generalizing f with
  | nil => exact h
  | cons parent outer ih =>
    rw [Scan.closeChained]
    split
    · cases h with
      | group hr hb ho =>
        -- a branch is no braces and no semicolon, so it does not matter where it ends
        exact ih (ho.push hb (fun items hi => hr.sited_of_blockItems hi)
          ⟨fun hc => (nomatch hc), fun hm => (nomatch hm)⟩)
    · exact h

/-- The open groups around a place, each with its pieces in order and with the groups inside of it behind
them. -/
inductive Nested : Position → Frame → List Frame → Prop
  | unit {here : Position} {f : Frame} : InOrder f.start f.pieces.reverse f.stop → f.stop ≤ here →
      Nested here f []
  | group {here : Position} {f parent : Frame} {outer : List Frame} : f.start < f.stop →
      InOrder f.start f.pieces.reverse f.stop → f.stop ≤ here → Nested f.start parent outer →
      Nested here f (parent :: outer)

variable {here there : Position}

lemma Nested.inOrder (h : Nested here f outer) : InOrder f.start f.pieces.reverse f.stop := by
  cases h with
  | unit h _ => exact h
  | group _ h _ _ => exact h

lemma Nested.mono (h : Nested here f outer) (hp : here ≤ there) : Nested there f outer := by
  cases h with
  | unit hi hs => exact .unit hi (hs.trans hp)
  | group hf hi hs ho => exact .group hf hi (hs.trans hp) ho

lemma Nested.push (h : Nested here f outer) (hb : here ≤ p.extent.first)
    (hp : p.extent.first < p.extent.last)
    (ht : ∀ items, p.token.items? = some items → Spread p.extent.first (sitesOf items) p.extent.last) :
    Nested p.extent.last (f.push p) outer := by
  have hpieces : (f.push p).pieces.reverse = f.pieces.reverse ++ [p] := List.reverse_cons
  cases h with
  | unit hi hs =>
    apply Nested.unit
    · rw [hpieces]
      exact hi.concat (hs.trans hb) hp ht
    · exact le_rfl
  | group hf hi hs ho =>
    apply Nested.group
    · exact hf.trans_le (hs.trans (hb.trans hp.le))
    · rw [hpieces]
      exact hi.concat (hs.trans hb) hp ht
    · exact le_rfl
    · exact ho

lemma Nested.closeChained (h : Nested here f outer) :
    Nested here (Scan.closeChained f outer).1 (Scan.closeChained f outer).2 := by
  induction outer generalizing f with
  | nil => exact h
  | cons parent outer ih =>
    rw [Scan.closeChained]
    split
    · cases h with
      | group hf hi hs ho =>
        apply ih
        exact (ho.push (p := f.closeBranch "" f.stop) le_rfl hf fun _ => hi.spread_of_blockItems).mono hs
    · exact h

structure State.Reads (done : List Char) (s : State) : Prop where
  position : s.position = Position.start.after done
  stack : Stacked done s.frame s.outer
  nested : Nested s.position s.frame s.outer

lemma State.Reads.pass (h : s.Reads done) (cs : List Char) : (s.pass cs).Reads (done ++ cs) where
  position := by rw [State.pass, Position.after_append, h.position]
  stack := h.stack.mono cs
  nested := h.nested.mono (s.position.le_after cs)

lemma State.Reads.comment (h : s.Reads done) (cs : List Char) : (s.comment cs).Reads (done ++ cs) :=
  ⟨(h.pass cs).position, (h.pass cs).stack, (h.pass cs).nested⟩

lemma State.Reads.begins (h : s.Reads done) (hc : ∃ c ∈ cs.head?, isBlank c = false) :
    Begins (done ++ cs) s.position :=
  ⟨done, cs, rfl, h.position, hc⟩

lemma ne_nil_of_head (h : ∃ c ∈ cs.head?, isBlank c = false) : cs ≠ [] := by
  rintro rfl
  obtain ⟨c, hc, -⟩ := h
  exact nomatch hc

lemma State.Reads.take (h : s.Reads done) (hc : ∃ c ∈ cs.head?, isBlank c = false)
    (ht : token = .directive ∨ ∃ sort, token = .lexeme sort) :
    (s.take token cs).Reads (done ++ cs) where
  position := by rw [State.take, Position.after_append, h.position]
  stack := by
    refine (h.stack.mono cs).push (h.begins hc) ?_ ⟨?_, ?_⟩
    · rcases ht with rfl | ⟨sort, rfl⟩ <;> (intro items hi; cases hi)
    · rcases ht with rfl | ⟨sort, rfl⟩ <;> (intro hi; cases hi)
    · intro hm
      have hcs : String.ofList cs = ";" := by
        unfold Piece.isMark at hm
        split at hm
        · exact beq_iff_eq.mp hm
        · cases hm
      obtain rfl : cs = [';'] := by rw [← String.toList_ofList (l := cs), hcs]; rfl
      refine ⟨?_, by simp⟩
      rw [Position.after_append, ← h.position]
      rfl
  nested := by
    apply h.nested.push (p := ⟨s.blank, String.ofList cs, .between s.position (s.position.after cs), token⟩)
    · exact le_rfl
    · exact s.position.lt_after (ne_nil_of_head hc)
    · rcases ht with rfl | ⟨sort, rfl⟩ <;> (intro items hi; cases hi)

lemma State.Reads.enter (h : s.Reads done) (opener : Opener) (hc : ∃ c ∈ cs.head?, isBlank c = false) :
    (s.enter opener cs).Reads (done ++ cs) where
  position := by rw [State.enter, Position.after_append, h.position]
  stack := .group (.nil _) (h.begins hc) (h.stack.mono cs)
  nested := by
    have hlt := s.position.lt_after (ne_nil_of_head hc)
    exact .group hlt (.nil hlt.le) le_rfl h.nested

lemma State.Reads.leave (h : s.Reads done) (hl : s.leave token cs = some s')
    (ht : ∀ items, token.items? = some items → blockItems s.frame.pieces.reverse = some items)
    (hm : ∀ sort, token ≠ .lexeme sort) (hc : ∀ c, token = .curly c → cs = ['}']) :
    s'.Reads (done ++ cs) := by
  obtain ⟨hp, hs, hn⟩ := h
  unfold State.leave at hl
  split at hl
  · exact nomatch hl
  · next parent outer ho =>
    obtain rfl := Option.some.inj hl
    have hpos : s.position.after cs = Position.start.after (done ++ cs) := by
      rw [Position.after_append, hp]
    rw [ho] at hs hn
    cases hs with
    | group hr hb hparent =>
      have hsited : token.Sited done := fun items hi => hr.sited_of_blockItems (ht items hi)
      refine ⟨hpos, (hparent.mono cs).push (hb.mono cs) (hsited.mono cs) ⟨?_, ?_⟩, ?_⟩
      · intro hcurly
        have hcs : cs = ['}'] := by
          cases token with
          | curly c => exact hc c rfl
          | _ => exact nomatch hcurly
        refine ⟨hpos, by simp [hcs]⟩
      · intro hmark
        cases token with
        | lexeme sort => exact absurd rfl (hm sort)
        | _ => exact nomatch hmark
      · cases hn with
        | group hf hi hstop houter =>
          have hend : s.frame.stop ≤ s.position.after cs := hstop.trans (s.position.le_after cs)
          apply houter.push (p := s.frame.close token (s.blank ++ String.ofList cs) (s.position.after cs))
          · exact le_rfl
          · exact hf.trans_le hend
          · exact fun items he => (hi.spread_of_blockItems (ht items he)).mono le_rfl hend

lemma State.Reads.closeBracket (h : s.Reads done) {c : Char} (hl : s.closeBracket c = some s') :
    s'.Reads (done ++ [c]) := by
  unfold State.closeBracket at hl
  dsimp only at hl
  split at hl
  · exact h.leave hl (fun items hi => nomatch hi) (by simp) (by simp)
  · exact h.leave hl (fun items hi => nomatch hi) (by simp) (by simp)
  · exact h.leave hl (fun items hi => hi) (by simp) (by simp)
  · exact nomatch hl

lemma State.Reads.closeConditional (h : s.Reads done) (hl : s.closeConditional cs = some s') :
    s'.Reads (done ++ cs) := by
  have hc : State.Reads done
      { s with frame := (Scan.closeChained s.frame s.outer).1,
               outer := (Scan.closeChained s.frame s.outer).2 } :=
    ⟨h.position, h.stack.closeChained, h.nested.closeChained⟩
  exact hc.leave hl (fun items hi => hi) (by simp) (by simp)

def Advances (done cs : List Char) (r : State × List Char) : Prop :=
  ∃ taken, cs = taken ++ r.2 ∧ r.1.Reads (done ++ taken)

lemma Advances.of_take (n : Nat) (h : s.Reads (done ++ cs.take n)) : Advances done cs (s, cs.drop n) :=
  ⟨cs.take n, (List.take_append_drop n cs).symm, h⟩

lemma head_take {c : Char} (cs : List Char) {n : Nat} (hc : isBlank c = false) (hn : 0 < n) :
    ∃ d ∈ ((c :: cs).take n).head?, isBlank d = false := by
  obtain ⟨m, rfl⟩ := Nat.exists_eq_succ_of_ne_zero hn.ne'
  exact ⟨c, rfl, hc⟩

lemma measured_advances {act : List Char → Option State} {length : Option Nat}
    (h : measured ('#' :: cs) act length = some r) (hl : ∀ n, length = some n → 0 < n)
    (ha : ∀ text s, (∃ c ∈ text.head?, isBlank c = false) → act text = some s → s.Reads (done ++ text)) :
    Advances done ('#' :: cs) r := by
  unfold measured at h
  split at h
  · next n =>
    obtain ⟨s, hs, rfl⟩ := Option.map_eq_some_iff.mp h
    exact .of_take n (ha _ s (head_take cs rfl (hl n rfl)) hs)
  · exact nomatch h

lemma sized_pos {m : Nat} {o : Option Nat} (n : Nat) (h : o.map (· + (m + 1)) = some n) : 0 < n := by
  obtain ⟨k, -, rfl⟩ := Option.map_eq_some_iff.mp h
  exact Nat.succ_pos _

lemma State.Reads.directive (h : s.Reads done) (hd : Scan.directive s ('#' :: cs) = some r) :
    Advances done ('#' :: cs) r := by
  have htake : ∀ text s', (∃ c ∈ text.head?, isBlank c = false) →
      some (s.take .directive text) = some s' → s'.Reads (done ++ text) :=
    fun text s' hc he => Option.some.inj he ▸ h.take hc (.inl rfl)
  have henter : ∀ opener text s', (∃ c ∈ text.head?, isBlank c = false) →
      some (s.enter opener text) = some s' → s'.Reads (done ++ text) :=
    fun opener text s' hc he => Option.some.inj he ▸ h.enter opener hc
  have hone : ∀ m n, some (m + 1) = some n → 0 < n :=
    fun m n he => Option.some.inj he ▸ Nat.succ_pos m
  unfold Scan.directive at hd
  split at hd
  · exact nomatch hd
  · next name m _ =>
    dsimp only at hd
    split at hd
    · exact measured_advances hd sized_pos htake
    · exact measured_advances hd sized_pos htake
    · exact measured_advances hd sized_pos (henter _)
    · exact measured_advances hd sized_pos (henter _)
    · exact measured_advances hd sized_pos (henter _)
    · split_ifs at hd
      · exact measured_advances hd sized_pos (henter _)
      · exact measured_advances hd sized_pos (henter _)
      · exact measured_advances hd (hone m) (henter _)
      · exact measured_advances hd (hone m) fun text s' _ he => h.closeConditional he
      · exact measured_advances hd sized_pos htake

lemma State.Reads.step (h : s.Reads done) (hs : Scan.step s cs = some r) : Advances done cs r := by
  cases cs with
  | nil => exact nomatch hs
  | cons c rest =>
    have henter : ∀ opener, isBlank c = false → Advances done (c :: rest) (s.enter opener [c], rest) :=
      fun opener hc => ⟨[c], rfl, h.enter opener ⟨c, rfl, hc⟩⟩
    have hclose : ∀ r, (s.closeBracket c).map (fun s' => (s', rest)) = some r →
        Advances done (c :: rest) r := by
      intro r hr
      obtain ⟨s', hs', rfl⟩ := Option.map_eq_some_iff.mp hr
      exact ⟨[c], rfl, h.closeBracket hs'⟩
    unfold Scan.step at hs
    dsimp only at hs
    split_ifs at hs
    · obtain rfl := Option.some.inj hs
      exact ⟨_, List.takeWhile_append_dropWhile.symm, h.pass _⟩
    · split at hs
      · obtain rfl := Option.some.inj hs
        exact .of_take _ (h.pass _)
      · split at hs
        · obtain rfl := Option.some.inj hs
          exact .of_take _ (h.comment _)
        · split at hs
          · exact h.directive hs
          · exact Option.some.inj hs ▸ henter _ rfl
          · exact Option.some.inj hs ▸ henter _ rfl
          · exact Option.some.inj hs ▸ henter _ rfl
          · exact hclose r hs
          · exact hclose r hs
          · exact hclose r hs
          · split at hs
            · next sort n hr =>
              obtain rfl := Option.some.inj hs
              -- blanks outside of ASCII are no spaces to the scanner, but no lexeme starts with one
              have hc : isBlank c = false := by
                by_contra hb
                rw [Lexeme.read_of_blank (by simpa using hb)] at hr
                exact nomatch hr
              exact .of_take n (h.take (head_take rest hc (Lexeme.read_pos hr)) (.inr ⟨sort, rfl⟩))
            · exact nomatch hs

lemma State.Reads.run {fuel : Nat} (h : s.Reads done) (hr : Scan.run fuel s cs = .ok s') :
    s'.Reads (done ++ cs) := by
  induction fuel generalizing done cs s with
  | zero =>
    cases cs with
    | nil =>
      obtain rfl := Except.ok.inj hr
      rwa [List.append_nil]
    | cons c cs => exact nomatch hr
  | succ fuel ih =>
    cases cs with
    | nil =>
      obtain rfl := Except.ok.inj hr
      rwa [List.append_nil]
    | cons c cs =>
      rw [Scan.run] at hr
      split at hr
      · next s₁ rest hs =>
        obtain ⟨taken, ht, hr₁⟩ := h.step hs
        rw [ht, ← List.append_assoc]
        exact ih hr₁ hr
      · exact nomatch hr
      · simp

lemma reads_start (cs : List Char) :
    ∃ mark, cs = mark ++ (start cs).2 ∧ (start cs).1.Reads mark := by
  have hinit : ∀ mark, (State.initial (Position.start.after mark)).Reads mark :=
    fun mark => ⟨rfl, .unit (.nil _), .unit (.nil le_rfl) le_rfl⟩
  unfold start
  split
  · next c rest =>
    split_ifs
    · exact ⟨[c], rfl, hinit [c]⟩
    · exact ⟨[], rfl, hinit []⟩
  · exact ⟨[], rfl, hinit []⟩

lemma reads_of_text {scanned : Scanned} (h : text cs = .ok scanned) :
    ∃ s : State, s.Reads cs ∧ s.frame.pieces.reverse = scanned.pieces := by
  obtain ⟨mark, hm, hs⟩ := reads_start cs
  unfold text at h
  dsimp only at h
  split at h
  · exact nomatch h
  · next s hr =>
    split at h
    · obtain rfl := Except.ok.inj h
      have hreads := hs.run hr
      rw [← hm] at hreads
      exact ⟨s, hreads, rfl⟩
    · exact nomatch h

lemma row_of_text {scanned : Scanned} (h : text cs = .ok scanned) : Row cs scanned.pieces := by
  obtain ⟨s, hs, hp⟩ := reads_of_text h
  rw [← hp]
  exact hs.stack.row

lemma inOrder_of_text {scanned : Scanned} (h : text cs = .ok scanned) :
    ∃ lo hi, InOrder lo scanned.pieces hi := by
  obtain ⟨s, hs, hp⟩ := reads_of_text h
  rw [← hp]
  exact ⟨s.frame.start, s.frame.stop, hs.nested.inOrder⟩

end Quadrature.C.Scan

namespace Quadrature.C

lemma SourceUnit.read_ok {source : String} {u : SourceUnit} (h : SourceUnit.read source = .ok u) :
    ∃ scanned, Scan.text source.toList = .ok scanned ∧
      itemsReading true scanned.pieces.length scanned.pieces = .ok u.items := by
  unfold SourceUnit.read at h
  split at h
  · exact nomatch h
  · next scanned hs =>
    refine ⟨scanned, hs, ?_⟩
    cases hr : itemsReading true scanned.pieces.length scanned.pieces with
    | error e => rw [hr] at h; exact nomatch h
    | ok items =>
      rw [hr] at h
      obtain rfl := Except.ok.inj h
      rfl

lemma SourceUnit.sited_of_read {source : String} {u : SourceUnit} (h : SourceUnit.read source = .ok u) :
    ∀ i ∈ u.items, i.Sited source.toList := by
  obtain ⟨scanned, hs, hr⟩ := SourceUnit.read_ok h
  exact fun i hi => (Scan.row_of_text hs).sited_of_readIn (itemsReading_readIn hr i hi)

lemma SourceUnit.spread_of_read {source : String} {u : SourceUnit} (h : SourceUnit.read source = .ok u) :
    ∃ lo hi, Spread lo (sitesOf u.items) hi := by
  obtain ⟨scanned, hs, hr⟩ := SourceUnit.read_ok h
  obtain ⟨lo, hi, hin⟩ := Scan.inOrder_of_text hs
  exact ⟨lo, hi, hin.spread_of_items hr⟩

end Quadrature.C
