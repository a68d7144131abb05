import Quadrature.C.Guard
import Quadrature.Proofs.Lines
import Mathlib.Data.List.Forall2

/-! Masking keeps the layout of a text: characters of blanked lines become as many spaces as they have
bytes, line ends and directives stay. -/

namespace Quadrature.Text

def bytes (s : String) : List UInt8 := s.toByteArray.data.toList

lemma bytes_eq (s : String) : bytes s = s.toList.flatMap String.utf8EncodeChar := by
  rw [bytes, ← String.utf8Encode_toList, List.utf8Encode, List.data_toByteArray, List.toList_toArray]

def placeAt (bs : List UInt8) (i : Nat) : C.Position :=
  (bs.take i).foldl (fun p b => if b = 0x0A then ⟨p.line + 1, 1⟩ else ⟨p.line, p.column + 1⟩) .start

lemma toNat_utf8EncodeChar {c : Char} (hc : 0x7f < c.val.toNat) :
    ∀ b ∈ String.utf8EncodeChar c, 0x80 ≤ b.toNat := by
  intro b hb
  unfold String.utf8EncodeChar at hb
  simp only [if_neg (Nat.not_le.mpr hc)] at hb
  have hh : ∀ n, 0x80 ≤ n → n < 256 → 0x80 ≤ (UInt8.ofNat n).toNat := by
    intro n hl hn
    rw [UInt8.toNat_ofNat']
    omega
  split at hb
  · rcases List.mem_pair.mp hb with rfl | rfl <;> exact hh _ (by omega) (by omega)
  · split at hb
    · simp only [List.mem_cons, List.not_mem_nil, or_false] at hb
      rcases hb with rfl | rfl | rfl <;> exact hh _ (by omega) (by omega)
    · simp only [List.mem_cons, List.not_mem_nil, or_false] at hb
      rcases hb with rfl | rfl | rfl | rfl <;> exact hh _ (by omega) (by omega)

lemma newline_mem_utf8EncodeChar {c : Char} (h : 0x0A ∈ String.utf8EncodeChar c) : c = '\n' := by
  by_cases hc : c.val.toNat ≤ 0x7f
  · unfold String.utf8EncodeChar at h
    simp only [if_pos hc, List.mem_singleton] at h
    have hv := congrArg UInt8.toNat h
    rw [UInt8.toNat_ofNat', Nat.mod_eq_of_lt (by omega)] at hv
    exact Char.ext (UInt32.toNat_inj.mp hv.symm)
  · have hh := toNat_utf8EncodeChar (Nat.not_le.mp hc) 0x0A h
    simp at hh

end Quadrature.Text

namespace Quadrature.C.Guard

open Text

inductive Role where
  | text | directive | continuation
  deriving DecidableEq

def startsDirective (line : List Char) : Bool :=
  ((body line).dropWhile isBlank).head? == some '#'

def isContinued (line : List Char) : Bool := (body line).getLast? == some '\\'

def roleOf (continued : Bool) (line : List Char) : Role :=
  if continued then .continuation else if startsDirective line then .directive else .text

/-- The roles of lines: a directive starts with `#` after blanks, and goes on behind a line that ends
in a backslash. -/
def roles (continued : Bool) : List (List Char) → List Role
  | [] => []
  | line :: rest =>
    roleOf continued line :: roles (roleOf continued line ≠ .text && isContinued line) rest

def blankedLines (st : State) : List (List Char) → List Bool
  | [] => []
  | line :: rest => (!st.isDirective line && st.excludes) :: blankedLines (st.next line) rest

def blankFlagged (bs : List Bool) (ls : List (List Char)) : List (List Char) :=
  List.zipWith (fun b line => if b then blank line else line) bs ls

def EndsLine (cs : List Char) : Prop := ∃ n rest, cs = List.replicate n '\r' ++ '\n' :: rest

/-- The first text arises from the second by blanking characters outside of line ends. -/
inductive Blanked : List Char → List Char → Prop
  | nil : Blanked [] []
  | keep {m s : List Char} (c : Char) : Blanked m s → Blanked (c :: m) (c :: s)
  | blank {m s : List Char} (c : Char) : ¬ EndsLine (c :: s) → Blanked m s →
      Blanked (List.replicate c.utf8Size ' ' ++ m) (c :: s)

lemma Blanked.append_keep {m s : List Char} (a : List Char) (h : Blanked m s) :
    Blanked (a ++ m) (a ++ s) := by
  induction a with
  | nil => exact h
  | cons c a ih => exact .keep c ih

lemma not_endsLine_append {b s : List Char} (hb : '\n' ∉ b) (hne : b ≠ [])
    (hl : b.getLast hne ≠ '\r') : ¬ EndsLine (b ++ s) := by
  induction b with
  | nil => exact absurd rfl hne
  | cons c b ih =>
    obtain ⟨hc, hb⟩ := List.ne_and_not_mem_of_not_mem_cons hb
    rintro ⟨n, rest, he⟩
    cases n with
    | zero =>
      simp only [List.replicate_zero, List.nil_append, List.cons_append, List.cons.injEq] at he
      exact hc he.1.symm
    | succ n =>
      simp only [List.replicate_succ, List.cons_append, List.cons.injEq] at he
      cases b with
      | nil => exact hl he.1
      | cons d b => exact ih hb (by simp) (by simpa using hl) ⟨n, rest, he.2⟩

lemma Blanked.append_blank {m s b : List Char} (hb : '\n' ∉ b)
    (hl : ∀ hne : b ≠ [], b.getLast hne ≠ '\r') (h : Blanked m s) :
    Blanked (List.replicate (byteLength b) ' ' ++ m) (b ++ s) := by
  induction b with
  | nil => simpa using h
  | cons c b ih =>
    have hb' := (List.ne_and_not_mem_of_not_mem_cons hb).2
    have ht : ∀ hne : b ≠ [], b.getLast hne ≠ '\r' := by
      intro hne
      simpa [List.getLast_cons hne] using hl (by simp)
    rw [byteLength_cons, List.replicate_add, List.append_assoc, List.cons_append]
    exact .blank c (not_endsLine_append (b := c :: b) hb (by simp) (hl (by simp))) (ih hb' ht)

lemma body_isPrefix (line : List Char) : body line <+: line := List.rdropWhile_prefix _ line

lemma body_append_terminator (line : List Char) : body line ++ terminator line = line :=
  List.prefix_iff_eq_append.mp (body_isPrefix line)

lemma body_last (line : List Char) (hne : body line ≠ []) : (body line).getLast hne ≠ '\r' := by
  have hl := List.rdropWhile_last_not (fun c => c == '\n' || c == '\r') line hne
  intro he
  exact hl (by simp [show (List.rdropWhile _ line).getLast hne = '\r' from he])

lemma body_newline (b : List Char) : body (b ++ ['\n']) = body b :=
  List.rdropWhile_concat_pos _ _ _ (by simp)

lemma body_not_mem {b : List Char} (hb : '\n' ∉ b) : '\n' ∉ body b :=
  fun h => hb ((body_isPrefix b).mem h)

lemma terminator_newline (b : List Char) : terminator (b ++ ['\n']) = terminator b ++ ['\n'] := by
  have hb := body_append_terminator b
  have hn := body_append_terminator (b ++ ['\n'])
  have hh : body b ++ terminator (b ++ ['\n']) = body b ++ (terminator b ++ ['\n']) := by
    rw [← List.append_assoc, hb, ← body_newline, hn]
  exact List.append_cancel_left hh

lemma terminator_not_mem {b : List Char} (hb : '\n' ∉ b) : '\n' ∉ terminator b :=
  fun h => hb (List.mem_of_mem_drop h)

lemma mem_terminator {c : Char} (line : List Char) (h : c ∈ terminator line) : c = '\n' ∨ c = '\r' := by
  induction line using List.reverseRecOn with
  | nil => exact absurd h List.not_mem_nil
  | append_singleton line d ih =>
    by_cases hd : (d == '\n' || d == '\r') = true
    · have hbody : body (line ++ [d]) = body line := List.rdropWhile_concat_pos _ line d hd
      rw [terminator, hbody, List.drop_append_of_le_length (body_isPrefix line).length_le] at h
      rcases List.mem_append.mp h with h | h
      · exact ih h
      · obtain rfl := List.mem_singleton.mp h
        simpa using hd
    · have hbody : body (line ++ [d]) = line ++ [d] := List.rdropWhile_concat_neg _ line d hd
      rw [terminator, hbody, List.drop_length] at h
      exact absurd h List.not_mem_nil

lemma areLines_replace_cons {b text : List Char} {ls : List (List Char)} (hb : '\n' ∉ b)
    (ht : '\n' ∉ text) (h : AreLines ls) : AreLines ((text ++ terminator (b ++ ['\n'])) :: ls) := by
  rw [terminator_newline, ← List.append_assoc]
  apply AreLines.cons _ h
  rw [List.mem_append, not_or]
  exact ⟨ht, terminator_not_mem hb⟩

lemma areLines_replace_last {l text : List Char} (hne : l ≠ []) (hl : '\n' ∉ l) (ht : '\n' ∉ text)
    (hlength : byteLength text = byteLength (body l)) : AreLines [text ++ terminator l] := by
  apply AreLines.last
  · intro he
    obtain ⟨rfl, hend⟩ := List.append_eq_nil_iff.mp he
    have hlen := length_le_byteLength (body l)
    rw [← hlength, byteLength_nil, Nat.le_zero] at hlen
    rw [← body_append_terminator l, List.eq_nil_of_length_eq_zero hlen, hend] at hne
    exact hne rfl
  · rw [List.mem_append, not_or]
    exact ⟨ht, terminator_not_mem hl⟩

lemma newline_not_mem_spaces (n : Nat) : '\n' ∉ List.replicate n ' ' :=
  fun hm => absurd (List.eq_of_mem_replicate hm) (by decide)

lemma byteLength_spaces (n : Nat) : byteLength (List.replicate n ' ') = n := by
  simpa using byteLength_spaces_append n []

lemma areLines_mask_cons {b : List Char} {ls : List (List Char)} (st : State) (hb : '\n' ∉ b)
    (h : AreLines ls) : AreLines (st.mask (b ++ ['\n']) :: ls) := by
  unfold State.mask
  split
  · exact .cons hb h
  · split
    · exact areLines_replace_cons hb (newline_not_mem_spaces _) h
    · exact .cons hb h

lemma areLines_mask_last {l : List Char} (st : State) (hne : l ≠ []) (hl : '\n' ∉ l) :
    AreLines [st.mask l] := by
  unfold State.mask
  split
  · exact .last hne hl
  · split
    · exact areLines_replace_last hne hl (newline_not_mem_spaces _) (byteLength_spaces _)
    · exact .last hne hl

lemma areLines_maskLines {ls : List (List Char)} (h : AreLines ls) (st : State) :
    AreLines (maskLines st ls) := by
  induction h generalizing st with
  | nil => exact .nil
  | last hne hl => exact areLines_mask_last st hne hl
  | cons hb _ ih => exact areLines_mask_cons st hb (ih _)

@[simp] lemma lines_mask (source : String) :
    lines (mask source).toList = maskLines .initial (lines source.toList) := by
  rw [mask, String.toList_ofList, lines_flatten_eq (areLines_maskLines (areLines_lines _) _)]

lemma blanked_mask_line {m s line : List Char} (st : State) (hb : '\n' ∉ body line)
    (h : Blanked m s) : Blanked (st.mask line ++ m) (line ++ s) := by
  unfold State.mask
  split
  · exact h.append_keep line
  · split
    · nth_rewrite 2 [← body_append_terminator line]
      rw [blank, List.append_assoc, List.append_assoc]
      exact (h.append_keep _).append_blank hb (body_last line)
    · exact h.append_keep line

lemma blanked_maskLines {ls : List (List Char)} (h : AreLines ls) (st : State) :
    Blanked (maskLines st ls).flatten ls.flatten := by
  induction h generalizing st with
  | nil => exact .nil
  | @last l _ hl => exact blanked_mask_line (m := []) (s := []) st (body_not_mem hl) .nil
  | @cons b ls hb _ ih =>
    exact blanked_mask_line st (body_newline b ▸ body_not_mem hb) (ih _)

lemma blanked_mask (source : String) : Blanked (mask source).toList source.toList := by
  rw [mask, String.toList_ofList]
  nth_rewrite 2 [← flatten_lines source.toList]
  exact blanked_maskLines (areLines_lines _) _

lemma ne_newline_of_not_endsLine {c : Char} {s : List Char} (h : ¬ EndsLine (c :: s)) : c ≠ '\n' := by
  rintro rfl
  exact h ⟨0, s, rfl⟩

lemma Blanked.after_eq {m s : List Char} (h : Blanked m s) (p : Position) :
    p.after m = p.after s := by
  induction h generalizing p with
  | nil => rfl
  | keep c _ ih => exact ih _
  | @blank m s c hc _ ih =>
    rw [Position.after_append, Position.after_of_not_mem p (newline_not_mem_spaces _),
      byteLength_spaces, ih, Position.after_cons, Position.next,
      if_neg (ne_newline_of_not_endsLine hc)]

lemma forall₂_replicate {R : UInt8 → UInt8 → Prop} {x : UInt8} (bs : List UInt8)
    (h : ∀ b ∈ bs, R x b) : List.Forall₂ R (List.replicate bs.length x) bs := by
  induction bs with
  | nil => exact .nil
  | cons b bs ih =>
    exact .cons (h b List.mem_cons_self) (ih fun d hd => h d (List.mem_cons_of_mem b hd))

lemma Blanked.forall₂_bytes {R : UInt8 → UInt8 → Prop} {m s : List Char} (h : Blanked m s)
    (hr : ∀ b, R b b) (hs : ∀ c, c ≠ '\n' → ∀ b ∈ String.utf8EncodeChar c, R 0x20 b) :
    List.Forall₂ R (m.flatMap String.utf8EncodeChar) (s.flatMap String.utf8EncodeChar) := by
  induction h with
  | nil => exact .nil
  | keep c _ ih =>
    exact List.rel_append (List.forall₂_same.mpr fun b _ => hr b) ih
  | @blank m s c hc _ ih =>
    have hb := forall₂_replicate _ (hs c (ne_newline_of_not_endsLine hc))
    rw [String.length_utf8EncodeChar] at hb
    have he : (List.replicate c.utf8Size ' ').flatMap String.utf8EncodeChar =
        List.replicate c.utf8Size 0x20 := by
      simp [List.flatMap_replicate, show String.utf8EncodeChar ' ' = [0x20] from rfl]
    rw [List.flatMap_append, he, List.flatMap_cons]
    exact List.rel_append hb ih

lemma placeAt_eq {ms bs : List UInt8} (h : List.Forall₂ (fun m b => m = 0x0A ↔ b = 0x0A) ms bs)
    (i : Nat) : placeAt ms i = placeAt bs i := by
  unfold placeAt
  generalize Position.start = p
  induction h generalizing i p with
  | nil => rfl
  | cons hb _ ih =>
    cases i with
    | zero => rfl
    | succ i => simp only [List.take_succ_cons, List.foldl_cons, hb, ih]

lemma Blanked.split {m a b : List Char} (h : Blanked m (a ++ b)) :
    ∃ m₁ m₂, m = m₁ ++ m₂ ∧ byteLength m₁ = byteLength a ∧ Blanked m₂ b := by
  induction a generalizing m with
  | nil => exact ⟨[], m, rfl, rfl, h⟩
  | cons c a ih =>
    cases h with
    | keep _ h =>
      obtain ⟨m₁, m₂, rfl, hl, hb⟩ := ih h
      exact ⟨c :: m₁, m₂, rfl, by simp [hl], hb⟩
    | blank _ _ h =>
      obtain ⟨m₁, m₂, rfl, hl, hb⟩ := ih h
      refine ⟨List.replicate c.utf8Size ' ' ++ m₁, m₂, by simp, ?_, hb⟩
      rw [byteLength_spaces_append, byteLength_cons, hl]

lemma Blanked.keeps_line_end {m rest : List Char} {n : Nat}
    (h : Blanked m (List.replicate n '\r' ++ '\n' :: rest)) :
    ∃ rest', m = List.replicate n '\r' ++ '\n' :: rest' := by
  induction n generalizing m with
  | zero =>
    cases h with
    | keep _ _ => exact ⟨_, rfl⟩
    | blank _ hc _ => exact absurd ⟨0, rest, rfl⟩ hc
  | succ n ih =>
    rw [List.replicate_succ, List.cons_append] at h
    cases h with
    | keep _ h =>
      obtain ⟨rest', rfl⟩ := ih h
      exact ⟨rest', rfl⟩
    | blank _ hc _ => exact absurd ⟨n + 1, rest, rfl⟩ hc

lemma State.mask_eq_ite (st : State) (line : List Char) :
    st.mask line = if !st.isDirective line && st.excludes then blank line else line := by
  rw [State.mask]
  cases st.isDirective line with
  | true => rfl
  | false => rfl

lemma maskLines_eq_blankFlagged (ls : List (List Char)) (st : State) :
    maskLines st ls = blankFlagged (blankedLines st ls) ls := by
  induction ls generalizing st with
  | nil => rfl
  | cons line rest ih =>
    rw [maskLines, blankedLines, blankFlagged, List.zipWith_cons_cons, st.mask_eq_ite, ih]
    rfl

lemma State.isDirective_eq (st : State) (line : List Char) :
    st.isDirective line = decide (roleOf st.continued line ≠ .text) := by
  unfold State.isDirective roleOf startsDirective
  cases st.continued with
  | true => simp
  | false => by_cases h : ((body line).dropWhile isBlank).head? = some '#' <;> simp [h]

lemma State.next_continued (st : State) (line : List Char) :
    (st.next line).continued = (decide (roleOf st.continued line ≠ .text) && isContinued line) := by
  unfold State.next
  rw [← st.isDirective_eq line]
  cases hd : st.isDirective line with
  | true => simp [isContinued]
  | false =>
    have hc : st.continued = false := by
      simp only [State.isDirective, Bool.or_eq_false_iff] at hd
      exact hd.1
    simp [hc]

lemma maskLines_directive {i : Nat} (ls : List (List Char)) (st : State) {r : Role}
    (h : (roles st.continued ls)[i]? = some r) (hr : r ≠ .text) :
    (maskLines st ls)[i]? = ls[i]? := by
  induction ls generalizing i st with
  | nil => rfl
  | cons line rest ih =>
    cases i with
    | zero =>
      simp only [roles, List.getElem?_cons_zero, Option.some.injEq] at h
      have hd : st.isDirective line = true := by simp [st.isDirective_eq, h, hr]
      simp [maskLines, State.mask, hd]
    | succ i =>
      simp only [roles, List.getElem?_cons_succ] at h
      simp only [maskLines, List.getElem?_cons_succ]
      exact ih (st.next line) (by rw [st.next_continued]; exact h)

/-- Bytes stay or become spaces, line feeds with the carriage returns before them and lines of
directives stay where they are, and every byte offset keeps its line and column. -/
theorem mask_keeps_layout (source : String) :
    (mask source).utf8ByteSize = source.utf8ByteSize ∧
    List.Forall₂ (fun m b => m = b ∨ m = 0x20) (bytes (mask source)) (bytes source) ∧
    (∀ a n rest, source.toList = a ++ (List.replicate n '\r' ++ '\n' :: rest) →
      ∃ a' rest', (mask source).toList = a' ++ (List.replicate n '\r' ++ '\n' :: rest') ∧
        byteLength a' = byteLength a) ∧
    (∀ (i : Nat) (r : Role), (roles false (lines source.toList))[i]? = some r → r ≠ .text →
      (lines (mask source).toList)[i]? = (lines source.toList)[i]?) ∧
    ∀ i, placeAt (bytes (mask source)) i = placeAt (bytes source) i := by
  have hb := blanked_mask source
  have hbytes : List.Forall₂ (fun m b => m = b ∨ m = 0x20) (bytes (mask source)) (bytes source) := by
    rw [bytes_eq, bytes_eq]
    exact hb.forall₂_bytes (fun _ => .inl rfl) fun _ _ _ _ => .inr rfl
  refine ⟨?_, hbytes, ?_, ?_, ?_⟩
  · have hl := hbytes.length_eq
    simpa [bytes] using hl
  · intro a n rest hs
    rw [hs] at hb
    obtain ⟨a', m, hm, hl, he⟩ := hb.split
    obtain ⟨rest', rfl⟩ := he.keeps_line_end
    exact ⟨a', rest', hm, hl⟩
  · intro i r hi hr
    rw [lines_mask]
    exact maskLines_directive (lines source.toList) .initial hi hr
  · apply placeAt_eq
    rw [bytes_eq, bytes_eq]
    refine hb.forall₂_bytes (fun _ => Iff.rfl) fun c hc b hm => ?_
    have hne : b ≠ 0x0A := by
      rintro rfl
      exact hc (newline_mem_utf8EncodeChar hm)
    simp [hne]

theorem mask_keeps_layout_mixed_ends :
    let source := "#ifdef __cplusplus\r\n x\ré\r\r\n#endif \\\n # 1\nint n;"
    (∃ a' rest', (mask source).toList = a' ++ (List.replicate 2 '\r' ++ '\n' :: rest') ∧
      byteLength a' = 25) ∧
    (roles false (lines source.toList))[3]? = some .continuation ∧
    (lines (mask source).toList)[3]? = (lines source.toList)[3]? := by
  intro source
  obtain ⟨_, _, hend, hdirective, _⟩ := mask_keeps_layout source
  have hrole : (roles false (lines source.toList))[3]? = some .continuation := by decide +kernel
  refine ⟨?_, hrole, hdirective 3 _ hrole (by decide)⟩
  exact hend "#ifdef __cplusplus\r\n x\ré".toList 2 "#endif \\\n # 1\nint n;".toList (by decide +kernel)

end Quadrature.C.Guard
