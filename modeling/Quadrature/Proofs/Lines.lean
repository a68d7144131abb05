import Quadrature.C.Extent
import Mathlib.Data.List.DropRight

/-! Lines, bytes and places of a text. A text splits at its last line feed into complete lines and a
rest without line feeds; the place after it is read off the two parts. -/

namespace Quadrature.Text

inductive AreLines : List (List Char) → Prop
  | nil : AreLines []
  | last {l : List Char} : l ≠ [] → '\n' ∉ l → AreLines [l]
  | cons {b : List Char} {ls : List (List Char)} :
      '\n' ∉ b → AreLines ls → AreLines ((b ++ ['\n']) :: ls)

lemma lines_append_newline (b cs : List Char) (hb : '\n' ∉ b) :
    lines (b ++ '\n' :: cs) = (b ++ ['\n']) :: lines cs := by
  induction b with
  | nil => simp [lines]
  | cons c b ih =>
    obtain ⟨hc, hb⟩ := List.ne_and_not_mem_of_not_mem_cons hb
    simp only [List.cons_append, lines, ih hb, if_neg (Ne.symm hc)]

lemma lines_of_not_mem (b : List Char) (hb : '\n' ∉ b) (hne : b ≠ []) : lines b = [b] := by
  induction b with
  | nil => exact absurd rfl hne
  | cons c b ih =>
    obtain ⟨hc, hb⟩ := List.ne_and_not_mem_of_not_mem_cons hb
    cases b with
    | nil => simp [lines]
    | cons d b => rw [lines, if_neg (Ne.symm hc), ih hb (by simp)]

lemma lines_flatten_eq {ls : List (List Char)} (h : AreLines ls) : lines ls.flatten = ls := by
  induction h with
  | nil => rfl
  | last hne hb => simpa using lines_of_not_mem _ hb hne
  | cons hb _ ih =>
    rw [List.flatten_cons, List.append_assoc, List.singleton_append, lines_append_newline _ _ hb, ih]

lemma areLines_lines (cs : List Char) : AreLines (lines cs) := by
  induction cs with
  | nil => exact .nil
  | cons c cs ih =>
    rw [lines]
    split
    · next hc =>
      subst hc
      exact .cons (b := []) (by simp) ih
    · next hc =>
      split
      · exact .last (by simp) (by simpa using Ne.symm hc)
      · next l ls hl =>
        rw [hl] at ih
        cases ih with
        | last hne hb => exact .last (by simp) (List.not_mem_cons_of_ne_of_not_mem (Ne.symm hc) hb)
        | cons hb hls => exact .cons (List.not_mem_cons_of_ne_of_not_mem (Ne.symm hc) hb) hls

@[simp] lemma flatten_lines (cs : List Char) : (lines cs).flatten = cs := by
  induction cs with
  | nil => rfl
  | cons c cs ih =>
    rw [lines]
    split
    · rw [List.flatten_cons, ih, List.singleton_append]
    · split
      · next hl => simpa [hl] using ih
      · next l ls hl =>
        rw [hl, List.flatten_cons] at ih
        rw [List.flatten_cons, List.cons_append, ih]

inductive Complete : List Char → Prop
  | nil : Complete []
  | line {b cs : List Char} : '\n' ∉ b → Complete cs → Complete (b ++ '\n' :: cs)

lemma Complete.append {a b : List Char} (ha : Complete a) (hb : Complete b) : Complete (a ++ b) := by
  induction ha with
  | nil => exact hb
  | line hl _ ih =>
    rw [List.append_assoc, List.cons_append]
    exact .line hl ih

lemma exists_complete_append (cs : List Char) : ∃ a b, cs = a ++ b ∧ Complete a ∧ '\n' ∉ b := by
  rw [← flatten_lines cs]
  generalize lines cs = ls, areLines_lines cs = h
  induction h with
  | nil => exact ⟨[], [], rfl, .nil, by simp⟩
  | @last l _ hb => exact ⟨[], l, by simp, .nil, hb⟩
  | @cons l ls hb _ ih =>
    obtain ⟨a, b, he, ha, hb'⟩ := ih
    exact ⟨l ++ '\n' :: a, b, by simp [he], .line hb ha, hb'⟩

lemma Complete.lines_append {a : List Char} (h : Complete a) (cs : List Char) :
    lines (a ++ cs) = lines a ++ lines cs := by
  induction h with
  | nil => rfl
  | line hb _ ih =>
    rw [List.append_assoc, List.cons_append, lines_append_newline _ _ hb,
      lines_append_newline _ _ hb, ih, List.cons_append]

lemma lines_append_of_not_mem {b : List Char} (hb : '\n' ∉ b) (cs : List Char) :
    (∃ t ls, lines (b ++ cs) = (b ++ t) :: ls) ∨ (lines (b ++ cs) = [] ∧ b = []) := by
  cases hl : lines (b ++ cs) with
  | nil =>
    have he := flatten_lines (b ++ cs)
    rw [hl] at he
    exact .inr ⟨rfl, (List.append_eq_nil_iff.mp he.symm).1⟩
  | cons l ls =>
    left
    have ha := areLines_lines (b ++ cs)
    have he := flatten_lines (b ++ cs)
    rw [hl] at ha he
    rw [List.flatten_cons] at he
    have hp : b <+: l ∨ l <+: b :=
      List.prefix_or_prefix_of_prefix (he ▸ List.prefix_append b cs) (List.prefix_append l ls.flatten)
    rcases hp with ⟨t, rfl⟩ | ⟨t, rfl⟩
    · exact ⟨t, ls, rfl⟩
    · cases ha with
      | last _ _ =>
        have ht : t = [] := by
          rw [List.flatten_nil, List.append_assoc, List.append_cancel_left_eq] at he
          exact (List.append_eq_nil_iff.mp he.symm).1
        exact ⟨[], [], by simp [ht]⟩
      | cons _ _ => simp at hb

lemma chomp_newline (b : List Char) : chomp (b ++ ['\n']) = if b.getLast? = some '\r' then b.dropLast else b := by
  rcases List.eq_nil_or_concat b with rfl | ⟨b', c, rfl⟩
  · rfl
  · by_cases hc : c = '\r'
    · subst hc
      simp [chomp]
    · simp [chomp, hc]

def newlines (cs : List Char) : Nat := cs.count '\n'

lemma newlines_append (a b : List Char) : newlines (a ++ b) = newlines a + newlines b :=
  List.count_append

lemma Complete.length_lines {a : List Char} (h : Complete a) : (lines a).length = newlines a := by
  induction h with
  | nil => rfl
  | line hb _ ih =>
    rw [lines_append_newline _ _ hb, List.length_cons, ih, newlines, newlines, List.count_append,
      List.count_eq_zero.mpr hb, List.count_cons_self, Nat.zero_add]

@[simp] lemma byteLength_nil : byteLength [] = 0 := rfl

@[simp] lemma byteLength_cons (c : Char) (cs : List Char) :
    byteLength (c :: cs) = c.utf8Size + byteLength cs := rfl

lemma byteLength_spaces_append (n : Nat) (cs : List Char) :
    byteLength (List.replicate n ' ' ++ cs) = n + byteLength cs := by
  induction n with
  | zero => simp
  | succ n ih =>
    have hs : Char.utf8Size ' ' = 1 := rfl
    rw [List.replicate_succ, List.cons_append, byteLength_cons, ih, hs]
    omega

lemma length_le_byteLength (cs : List Char) : cs.length ≤ byteLength cs := by
  induction cs with
  | nil => exact Nat.le_refl 0
  | cons c cs ih =>
    have hc := c.utf8Size_pos
    rw [List.length_cons, byteLength_cons]
    omega

lemma takeBytes_append (b cs : List Char) : takeBytes (byteLength b) (b ++ cs) = b ++ takeBytes 0 cs := by
  induction b with
  | nil => simp
  | cons c b ih =>
    rw [List.cons_append, takeBytes, byteLength_cons, if_pos (Nat.le_add_right _ _),
      Nat.add_sub_cancel_left, ih, List.cons_append]

lemma takeBytes_zero (cs : List Char) : takeBytes 0 cs = [] := by
  cases cs with
  | nil => rfl
  | cons c cs =>
    have hc := c.utf8Size_pos
    rw [takeBytes, if_neg (by omega)]

end Quadrature.Text

namespace Quadrature.C

open Text

lemma Position.after_append (p : Position) (a b : List Char) :
    p.after (a ++ b) = (p.after a).after b := by
  simp [Position.after]

lemma Position.after_cons (p : Position) (c : Char) (cs : List Char) :
    p.after (c :: cs) = (p.next c).after cs := rfl

lemma Position.after_of_not_mem (p : Position) {b : List Char} (hb : '\n' ∉ b) :
    p.after b = ⟨p.line, p.column + byteLength b⟩ := by
  induction b generalizing p with
  | nil => simp [Position.after]
  | cons c b ih =>
    obtain ⟨hc, hb⟩ := List.ne_and_not_mem_of_not_mem_cons hb
    rw [Position.after_cons, ih _ hb, Position.next, if_neg (Ne.symm hc), byteLength_cons,
      Nat.add_assoc]

lemma Position.start_after_complete {a : List Char} (h : Complete a) (n : Nat) :
    (Position.mk n 1).after a = ⟨n + newlines a, 1⟩ := by
  induction h generalizing n with
  | nil => simp [Position.after, newlines]
  | line hb _ ih =>
    rw [Position.after_append, Position.after_of_not_mem _ hb, Position.after_cons, Position.next,
      if_pos rfl, ih, newlines, newlines, List.count_append, List.count_eq_zero.mpr hb,
      List.count_cons_self]
    simp only [Position.mk.injEq, and_true]
    omega

end Quadrature.C
