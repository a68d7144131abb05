import Quadrature.Identifier
import Quadrature.Proofs.Lexemes
import Quadrature.Proofs.Paths

/-! Names in Pascal case. A name is made of words with runs of underscores around and between them; its Pascal case
drops the runs at the ends, drops one underscore of each run between two words, and capitalises the words. -/

namespace Quadrature.Text

variable {sep : Char} {cs : List Char}

lemma splitOn_replicate_append (sep : Char) (k : Nat) (b : List Char) :
    splitOn sep (List.replicate k sep ++ b) = List.replicate k [] ++ splitOn sep b := by
  induction k with
  | zero => rfl
  | succ k ih => rw [List.replicate_succ, List.cons_append, splitOn, if_pos rfl, ih, List.replicate_succ, List.cons_append]

lemma dropEndWhile_append {p : Char → Bool} {cs ds : List Char} (hd : ∀ c ∈ ds, p c = true)
    (hc : ∀ c ∈ cs.getLast?, p c = false) : dropEndWhile p (cs ++ ds) = cs := by
  have hstop : cs.reverse.dropWhile p = cs.reverse := by
    cases h : cs.reverse with
    | nil => rfl
    | cons c ds =>
      have hp : p c = false := hc c (by rw [← List.head?_reverse, h]; rfl)
      rw [List.dropWhile_cons_of_neg (by simp [hp])]
  rw [dropEndWhile, List.reverse_append, List.dropWhile_append_of_pos (by simpa using hd), hstop, List.reverse_reverse]

def IsAscii (cs : List Char) : Prop := ∀ c ∈ cs, c.toNat < 128

lemma flatMap_lowerChar (h : IsAscii cs) : cs.flatMap lowerChar = cs.map Char.toLower := by
  induction cs with
  | nil => rfl
  | cons c cs ih =>
    obtain ⟨hc, hcs⟩ := List.forall_mem_cons.mp h
    rw [List.flatMap_cons, ih hcs, lowerChar, if_pos hc, List.map_cons, List.singleton_append]

lemma lowerFrom_eq (h : IsAscii cs) (before : List Char) : lowerFrom before cs = cs.map Char.toLower := by
  induction cs generalizing before with
  | nil => rfl
  | cons c cs ih =>
    obtain ⟨hc, hcs⟩ := List.forall_mem_cons.mp h
    have hsigma : c.toNat ≠ 0x3A3 := by omega
    rw [lowerFrom, if_neg hsigma, ih hcs, lowerChar, if_pos hc, List.map_cons, List.singleton_append]

end Quadrature.Text

namespace Quadrature.Identifier

open Text

structure IsPart (w : List Char) : Prop where
  nonempty : w ≠ []
  bare : '_' ∉ w

instance : DecidablePred IsPart := fun w =>
  decidable_of_iff (w ≠ [] ∧ '_' ∉ w) ⟨fun h => ⟨h.1, h.2⟩, fun h => ⟨h.nonempty, h.bare⟩⟩

/-- A name that is not made of underscores alone: the underscores in front, a first part, the later parts each
with the number of underscores before it, and the underscores behind. -/
structure Parts where
  before : Nat
  first : List Char
  later : List (Nat × List Char)
  after : Nat
  isPart : IsPart first
  arePart : ∀ x ∈ later, 0 < x.1 ∧ IsPart x.2

def capital : List Char → List Char
  | [] => []
  | c :: cs => c.toUpper :: cs.map Char.toLower

namespace Parts

variable (n : Parts)

def inner : List Char := n.first ++ n.later.flatMap fun x => List.replicate x.1 '_' ++ x.2

def text : List Char := List.replicate n.before '_' ++ n.inner ++ List.replicate n.after '_'

def pascal : List Char := capital n.first ++ n.later.flatMap fun x => List.replicate (x.1 - 1) '_' ++ capital x.2

lemma inner_eq_append : ∃ front w, n.inner = front ++ w ∧ IsPart w := by
  rcases List.eq_nil_or_concat n.later with h | ⟨init, x, h⟩
  · exact ⟨[], n.first, by simp [inner, h], n.isPart⟩
  · have hx : x ∈ n.later := by simp [h]
    exact ⟨n.first ++ init.flatMap (fun x => List.replicate x.1 '_' ++ x.2) ++ List.replicate x.1 '_', x.2,
      by simp [inner, h], (n.arePart x hx).2⟩

lemma dropWhile_text : n.text.dropWhile (· == '_') = n.inner ++ List.replicate n.after '_' := by
  have hlead : ∀ c ∈ List.replicate n.before '_', (c == '_') = true := by
    intro c hc
    rw [List.eq_of_mem_replicate hc, beq_self_eq_true]
  obtain ⟨c, cs, hc⟩ := List.exists_cons_of_ne_nil n.isPart.nonempty
  have hne : c ≠ '_' := fun he => n.isPart.bare (by rw [hc, he]; exact List.mem_cons_self)
  rw [text, List.append_assoc, List.dropWhile_append_of_pos hlead, inner, hc, List.cons_append, List.cons_append,
    List.dropWhile_cons_of_neg (by simpa using hne)]

lemma bare_text : dropEndWhile (· == '_') (n.text.dropWhile (· == '_')) = n.inner := by
  have htrail : ∀ c ∈ List.replicate n.after '_', (c == '_') = true := by
    intro c hc
    rw [List.eq_of_mem_replicate hc, beq_self_eq_true]
  rw [dropWhile_text]
  refine dropEndWhile_append htrail fun c hc => ?_
  obtain ⟨front, w, he, hw⟩ := n.inner_eq_append
  rw [he, List.getLast?_append_of_ne_nil _ hw.nonempty] at hc
  exact beq_false_of_ne fun h => hw.bare (h ▸ List.mem_of_getLast? hc)

lemma isAscii_parts {n : Parts} (h : IsAscii n.text) : IsAscii n.first ∧ ∀ x ∈ n.later, IsAscii x.2 := by
  have hinner : IsAscii n.inner := fun c hc => h c (List.mem_append_left _ (List.mem_append_right _ hc))
  refine ⟨fun c hc => hinner c (List.mem_append_left _ hc), fun x hx c hc => ?_⟩
  exact hinner c (List.mem_append_right _ (List.mem_flatMap.mpr ⟨x, hx, List.mem_append_right _ hc⟩))

end Parts

lemma splitOn_parts {first : List Char} {later : List (Nat × List Char)} (hf : IsPart first)
    (hl : ∀ x ∈ later, 0 < x.1 ∧ IsPart x.2) :
    splitOn '_' (first ++ later.flatMap fun x => List.replicate x.1 '_' ++ x.2) =
      first :: later.flatMap fun x => List.replicate (x.1 - 1) [] ++ [x.2] := by
  induction later generalizing first with
  | nil => simpa using splitOn_of_not_mem hf.bare
  | cons x later ih =>
    obtain ⟨⟨hpos, hx⟩, hl⟩ := List.forall_mem_cons.mp hl
    obtain ⟨k, hk⟩ := Nat.exists_eq_add_one_of_ne_zero hpos.ne'
    rw [List.flatMap_cons, List.flatMap_cons, hk, Nat.add_sub_cancel, List.replicate_succ, List.append_assoc,
      List.cons_append, splitOn_append_sep, splitOn_of_not_mem hf.bare, splitOn_replicate_append, ih hx hl]
    simp

lemma capitalised_eq {w : List Char} (h : IsAscii w) : capitalised w = capital w := by
  cases w with
  | nil => rfl
  | cons c cs =>
    obtain ⟨hc, hcs⟩ := List.forall_mem_cons.mp h
    rw [capitalised, flatMap_lowerChar hcs, upperChar, if_pos hc, capital, List.singleton_append]

lemma upperFirst_lower {w : List Char} (hw : w ≠ []) (h : IsAscii w) (rest : List Char) :
    upperFirst (lower w ++ rest) = capital w ++ rest := by
  obtain ⟨c, cs, rfl⟩ := List.exists_cons_of_ne_nil hw
  have hfirst : c.toLower.toNat < 128 ∧ c.toLower.toUpper = c.toUpper :=
    forall_ascii (P := fun c => c.toLower.toNat < 128 ∧ c.toLower.toUpper = c.toUpper) (by decide +kernel)
      (h c List.mem_cons_self)
  rw [lower, lowerFrom_eq h, List.map_cons, List.cons_append, upperFirst, upperChar, if_pos hfirst.1, hfirst.2,
    capital, List.singleton_append, List.cons_append]

lemma flatMap_laterSegment {later : List (Nat × List Char)} (hl : ∀ x ∈ later, 0 < x.1 ∧ IsPart x.2)
    (ha : ∀ x ∈ later, IsAscii x.2) :
    (later.flatMap fun x => List.replicate (x.1 - 1) [] ++ [x.2]).flatMap laterSegment =
      later.flatMap fun x => List.replicate (x.1 - 1) '_' ++ capital x.2 := by
  have hrun : ∀ k : Nat, (List.replicate k []).flatMap laterSegment = List.replicate k '_' := by
    intro k
    induction k with
    | zero => rfl
    | succ k ih => rw [List.replicate_succ, List.flatMap_cons, ih]; rfl
  have hpart : ∀ x ∈ later, laterSegment x.2 = capital x.2 := by
    intro x hx
    obtain ⟨c, cs, hc⟩ := List.exists_cons_of_ne_nil (hl x hx).2.nonempty
    rw [← capitalised_eq (ha x hx), hc]
    rfl
  rw [List.flatMap_assoc]
  refine List.flatMap_congr fun x hx => ?_
  rw [List.flatMap_append, hrun, List.flatMap_singleton, hpart x hx]

variable {s : String} {cs : List Char}

lemma pascalCase_of_parts {n : Parts} (hn : n.text = s.toList) (hs : IsAscii s.toList) :
    (pascalCase s).toList = n.pascal := by
  rw [← hn] at hs
  obtain ⟨hfirst, hlater⟩ := Parts.isAscii_parts hs
  rw [pascalCase, ← hn, n.bare_text, Parts.inner, splitOn_parts n.isPart n.arePart]
  rw [String.toList_ofList, flatMap_laterSegment n.arePart hlater, upperFirst_lower n.isPart.nonempty hfirst]
  rfl

lemma pascalCase_of_underscores (h : ∀ c ∈ s.toList, c = '_') : pascalCase s = "" := by
  have hdrop : s.toList.dropWhile (fun c => c == '_') = [] := by
    rw [List.dropWhile_eq_nil_iff]
    intro c hc
    rw [h c hc, beq_self_eq_true]
  rw [pascalCase, hdrop]
  rfl

lemma exists_parts (cs : List Char) : (∃ n : Parts, n.text = cs) ∨ ∀ c ∈ cs, c = '_' := by
  induction cs with
  | nil => exact .inr (by simp)
  | cons c cs ih =>
    by_cases hc : c = '_'
    · subst hc
      refine ih.imp ?_ fun h => List.forall_mem_cons.mpr ⟨rfl, h⟩
      rintro ⟨n, rfl⟩
      exact ⟨{ n with before := n.before + 1 }, rfl⟩
    · have hpart : IsPart [c] := ⟨by simp, by simpa using Ne.symm hc⟩
      rcases ih with ⟨⟨before, first, later, after, hf, hl⟩, rfl⟩ | h
      · cases before with
        | zero =>
          have hf' : IsPart (c :: first) := ⟨by simp, by simpa using ⟨Ne.symm hc, hf.bare⟩⟩
          exact .inl ⟨⟨0, c :: first, later, after, hf', hl⟩, rfl⟩
        | succ k =>
          refine .inl ⟨⟨0, [c], (k + 1, first) :: later, after, hpart, ?_⟩, ?_⟩
          · exact List.forall_mem_cons.mpr ⟨⟨Nat.succ_pos k, hf⟩, hl⟩
          · simp [Parts.text, Parts.inner]
      · obtain ⟨k, rfl⟩ : ∃ k, cs = List.replicate k '_' := ⟨_, List.eq_replicate_of_mem h⟩
        exact .inl ⟨⟨0, [c], [], k, hpart, by simp⟩, rfl⟩

def letters (cs : List Char) : List Char := (cs.filter (· ≠ '_')).map Char.toLower

lemma letters_append (a b : List Char) : letters (a ++ b) = letters a ++ letters b := by
  rw [letters, List.filter_append, List.map_append]
  rfl

lemma letters_replicate (k : Nat) : letters (List.replicate k '_') = [] := by
  rw [letters, List.filter_replicate]
  rfl

lemma letters_flatMap {α : Type} (xs : List α) (f : α → List Char) :
    letters (xs.flatMap f) = xs.flatMap fun x => letters (f x) := by
  induction xs with
  | nil => rfl
  | cons x xs ih => rw [List.flatMap_cons, letters_append, ih, List.flatMap_cons]

lemma letters_case {c : Char} (h : c.toNat < 128) :
    letters [c.toUpper] = letters [c] ∧ letters [c.toLower] = letters [c] :=
  forall_ascii (P := fun c => letters [c.toUpper] = letters [c] ∧ letters [c.toLower] = letters [c])
    (by decide +kernel) h

lemma letters_toLower (h : IsAscii cs) : letters (cs.map Char.toLower) = letters cs := by
  induction cs with
  | nil => rfl
  | cons c cs ih =>
    obtain ⟨hc, hcs⟩ := List.forall_mem_cons.mp h
    calc letters (c.toLower :: cs.map Char.toLower)
        = letters [c.toLower] ++ letters (cs.map Char.toLower) := letters_append [_] _
      _ = letters [c] ++ letters cs := by rw [(letters_case hc).2, ih hcs]
      _ = letters (c :: cs) := (letters_append [c] cs).symm

lemma letters_capital (h : IsAscii cs) : letters (capital cs) = letters cs := by
  cases cs with
  | nil => rfl
  | cons c cs =>
    obtain ⟨hc, hcs⟩ := List.forall_mem_cons.mp h
    calc letters (c.toUpper :: cs.map Char.toLower)
        = letters [c.toUpper] ++ letters (cs.map Char.toLower) := letters_append [_] _
      _ = letters [c] ++ letters cs := by rw [(letters_case hc).1, letters_toLower hcs]
      _ = letters (c :: cs) := (letters_append [c] cs).symm

namespace Parts

lemma letters_pascal {n : Parts} (h : IsAscii n.text) : letters n.pascal = letters n.text := by
  obtain ⟨hfirst, hlater⟩ := isAscii_parts h
  have hmore : (n.later.flatMap fun x => letters (List.replicate (x.1 - 1) '_' ++ capital x.2)) =
      n.later.flatMap fun x => letters (List.replicate x.1 '_' ++ x.2) := by
    refine List.flatMap_congr fun x hx => ?_
    rw [letters_append, letters_append, letters_replicate, letters_replicate, letters_capital (hlater x hx)]
  have hends : letters n.text = letters n.inner := by
    rw [text, letters_append, letters_append, letters_replicate, letters_replicate, List.nil_append, List.append_nil]
  rw [hends, pascal, letters_append, letters_capital hfirst, letters_flatMap, hmore, ← letters_flatMap,
    ← letters_append]
  rfl

lemma pascal_ne_nil (n : Parts) : n.pascal ≠ [] := by
  obtain ⟨c, cs, hc⟩ := List.exists_cons_of_ne_nil n.isPart.nonempty
  rw [pascal, hc, capital]
  exact List.cons_ne_nil _ _

lemma text_ne_underscores (n : Parts) : ¬ ∀ c ∈ n.text, c = '_' := by
  intro h
  obtain ⟨c, cs, hc⟩ := List.exists_cons_of_ne_nil n.isPart.nonempty
  have hm : c ∈ n.first := by rw [hc]; exact List.mem_cons_self
  exact n.isPart.bare (h c (List.mem_append_left _ (List.mem_append_right _ (List.mem_append_left _ hm))) ▸ hm)

end Parts

/-- The Pascal case of a name: the underscores at both ends go, each run between two parts loses one, and every
part starts in upper case and goes on in lower case. So the name is kept but for underscores and case, and nothing
is left exactly of underscores alone. -/
theorem pascalCase_capitalises_parts (s : String) (hs : ∀ c ∈ s.toList, c.toNat < 128) :
    ((∃ n : Parts, n.text = s.toList) ∨ ∀ c ∈ s.toList, c = '_') ∧
    (∀ n : Parts, n.text = s.toList → (pascalCase s).toList = n.pascal) ∧
    letters (pascalCase s).toList = letters s.toList ∧
    (pascalCase s = "" ↔ ∀ c ∈ s.toList, c = '_') := by
  refine ⟨exists_parts s.toList, fun n hn => pascalCase_of_parts hn hs, ?_⟩
  rcases exists_parts s.toList with ⟨n, hn⟩ | h
  · have hpascal := pascalCase_of_parts hn hs
    rw [hpascal, ← hn, ← String.toList_inj, hpascal, String.toList_empty]
    exact ⟨Parts.letters_pascal (hn ▸ hs), iff_of_false n.pascal_ne_nil n.text_ne_underscores⟩
  · obtain ⟨k, hk⟩ : ∃ k, s.toList = List.replicate k '_' := ⟨_, List.eq_replicate_of_mem h⟩
    rw [pascalCase_of_underscores h, hk, letters_replicate]
    exact ⟨rfl, iff_of_true rfl fun c hc => List.eq_of_mem_replicate hc⟩

theorem pascalCase_capitalises_parts_of_cern :
    (∃ n : Parts, n.text = "_cERN___physics_2__".toList ∧
      (pascalCase "_cERN___physics_2__").toList = n.pascal ∧ n.pascal = "Cern__Physics2".toList) ∧
    pascalCase "___" = "" := by
  have hascii : ∀ c ∈ "_cERN___physics_2__".toList, c.toNat < 128 := Text.forall_mem_of_all (by decide)
  have hline : ∀ c ∈ "___".toList, c.toNat < 128 := Text.forall_mem_of_all (by decide)
  refine ⟨⟨⟨1, "cERN".toList, [(3, "physics".toList), (1, "2".toList)], 2, ⟨by decide, by decide⟩, by decide⟩,
    by decide, ?_, by decide⟩, ?_⟩
  · exact (pascalCase_capitalises_parts _ hascii).2.1 _ (by decide)
  · exact (pascalCase_capitalises_parts _ hline).2.2.2.mpr (Text.forall_mem_of_all (by decide))

end Quadrature.Identifier
