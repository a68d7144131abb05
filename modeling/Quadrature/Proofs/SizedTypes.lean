import Quadrature.C.Outline
import Quadrature.Proofs.Directives

/-! Types of size words. The kind of such a type depends on which words there are and on how often there is a `long`,
and neither on their order nor on the blanks between them. -/

namespace Quadrature.Text

inductive Spaced : List Char → List String → Prop
  | nil {cs : List Char} : (∀ c ∈ cs, isBlank c = true) → Spaced cs []
  | cons {gap rest : List Char} {w : String} {ws : List String} : (∀ c ∈ gap, isBlank c = true) → w ≠ "" →
      (∀ c ∈ w.toList, isBlank c = false) → (∀ c ∈ rest.head?, isBlank c = true) → Spaced rest ws →
      Spaced (gap ++ w.toList ++ rest) (w :: ws)

variable {gap rest w acc : List Char} {s : String} {ws : List String}

lemma wordsOf_blank_append (h : ∀ c ∈ gap, isBlank c = true) (cs : List Char) :
    wordsOf (gap ++ cs) [] = wordsOf cs [] := by
  induction gap with
  | nil => rfl
  | cons c gap ih =>
    obtain ⟨hc, hgap⟩ := List.forall_mem_cons.mp h
    rw [List.cons_append, wordsOf_cons, if_pos hc, if_pos rfl, ih hgap]

lemma wordsOf_word_append (h : ∀ c ∈ w, isBlank c = false) (cs acc : List Char) :
    wordsOf (w ++ cs) acc = wordsOf cs (w.reverse ++ acc) := by
  induction w generalizing acc with
  | nil => rfl
  | cons c w ih =>
    obtain ⟨hc, hw⟩ := List.forall_mem_cons.mp h
    rw [List.cons_append, wordsOf_cons, if_neg (by simp [hc]), ih hw, List.reverse_cons, List.append_assoc,
      List.singleton_append]

lemma wordsOf_end (h : ∀ c ∈ rest.head?, isBlank c = true) (ha : acc ≠ []) :
    wordsOf rest acc = acc.reverse :: wordsOf rest [] := by
  cases rest with
  | nil =>
    cases acc with
    | nil => exact absurd rfl ha
    | cons c acc => rfl
  | cons c rest => rw [wordsOf_cons, wordsOf_cons, if_pos (h c rfl), if_pos (h c rfl), if_neg ha, if_pos rfl]

lemma wordsOf_of_spaced (h : Spaced rest ws) : wordsOf rest [] = ws.map String.toList := by
  induction h with
  | nil h =>
    have he := wordsOf_blank_append h []
    rw [List.append_nil] at he
    rw [he]
    rfl
  | @cons gap rest w ws hgap hne hw hr _ ih =>
    have hrev : w.toList.reverse ++ [] ≠ [] := by simpa using hne
    rw [List.append_assoc, wordsOf_blank_append hgap, wordsOf_word_append hw, wordsOf_end hr hrev, ih]
    simp

lemma Spaced.blank_cons {c : Char} (hc : isBlank c = true) (h : Spaced rest ws) : Spaced (c :: rest) ws := by
  cases h with
  | nil h => exact .nil (List.forall_mem_cons.mpr ⟨hc, h⟩)
  | cons hgap hne hw hr h => exact .cons (List.forall_mem_cons.mpr ⟨hc, hgap⟩) hne hw hr h

lemma Spaced.word (hne : w ≠ []) (hw : ∀ c ∈ w, isBlank c = false) (hr : ∀ c ∈ rest.head?, isBlank c = true)
    (h : Spaced rest ws) : Spaced (w ++ rest) (String.ofList w :: ws) := by
  have hs := @Spaced.cons [] rest (String.ofList w) ws (by simp) (by simpa using hne) (by simpa using hw) hr h
  rwa [String.toList_ofList, List.nil_append] at hs

lemma spaced_wordsOf (cs : List Char) (ha : ∀ c ∈ acc, isBlank c = false) :
    Spaced (acc.reverse ++ cs) ((wordsOf cs acc).map String.ofList) := by
  induction cs generalizing acc with
  | nil =>
    cases acc with
    | nil => exact .nil (by simp)
    | cons c acc =>
      rw [wordsOf_end (by simp) (by simp)]
      exact .word (by simp) (fun d hd => ha d (List.mem_reverse.mp hd)) (by simp) (.nil (by simp))
  | cons c cs ih =>
    cases hc : isBlank c with
    | false =>
      have h := ih (List.forall_mem_cons.mpr ⟨hc, ha⟩)
      rw [List.reverse_cons, List.append_assoc, List.singleton_append] at h
      rwa [wordsOf_cons, if_neg (by simp [hc])]
    | true =>
      have h : Spaced (c :: cs) ((wordsOf cs []).map String.ofList) := .blank_cons hc (@ih [] (by simp))
      rw [wordsOf_cons, if_pos hc]
      split_ifs with hne
      · rw [hne]
        exact h
      · exact .word (by simpa using hne) (fun d hd => ha d (List.mem_reverse.mp hd)) (by simpa using hc) h

lemma words_of_spaced (h : Spaced s.toList ws) : words s = ws := by
  rw [words, wordsOf_of_spaced h, List.map_map]
  exact (List.map_congr_left fun w _ => String.ofList_toList).trans (List.map_id' ws)

lemma spaced_iff : Spaced s.toList ws ↔ words s = ws := by
  refine ⟨words_of_spaced, ?_⟩
  rintro rfl
  exact @spaced_wordsOf [] s.toList (List.forall_mem_nil _)

end Quadrature.Text

namespace Quadrature.C

open Text

def bases (ws : List String) : List String := ws.filter fun w => !Word.sizes.contains w

lemma bases_append (ws us : List String) : bases (ws ++ us) = bases ws ++ bases us := List.filter_append _ _

lemma bases_singleton (w : String) : bases [w] = if Word.sizes.contains w then [] else [w] := by
  cases h : Word.sizes.contains w <;> simp only [bases, List.filter_cons, h] <;> rfl

lemma bases_signed (ws : List String) : bases ("signed" :: ws) = bases ws := List.filter_cons_of_neg (by decide)

lemma bases_int (ws : List String) : bases ("int" :: ws) = "int" :: bases ws := List.filter_cons_of_pos (by decide)

namespace SizeWords

variable {ws us : List String}

lemma add_eq (s : SizeWords) (w : String) : s.add w =
    { unsigned := s.unsigned || decide (w = "unsigned")
      signed := s.signed || decide (w = "signed")
      shorts := s.shorts + if w = "short" then 1 else 0
      longs := s.longs + if w = "long" then 1 else 0
      base := if Word.sizes.contains w then s.base else w } := by
  unfold add
  split <;> simp_all [Word.sizes]

lemma ofList_eq (ws : List String) : ofList ws =
    { unsigned := ws.contains "unsigned"
      signed := ws.contains "signed"
      shorts := ws.count "short"
      longs := ws.count "long"
      base := (bases ws).getLast?.getD "" } := by
  induction ws using List.reverseRecOn with
  | nil => rfl
  | append_singleton ws w ih =>
    rw [ofList, List.foldl_append, List.foldl_cons, List.foldl_nil, ← ofList, ih, add_eq, mk.injEq]
    refine ⟨?_, ?_, ?_, ?_, ?_⟩
    · simp [eq_comm]
    · simp [eq_comm]
    · simp [List.count_singleton]
    · simp [List.count_singleton]
    · rw [bases_append]
      split_ifs with h
      · rw [bases_singleton, if_pos h, List.append_nil]
      · rw [bases_singleton, if_neg h, List.getLast?_concat, Option.getD_some]

lemma kind_eq (s : SizeWords) : s.kind =
    if s.base = "double" then if 0 < s.longs then .longDouble else .double
    else if s.base = "char" then if s.unsigned then .uChar else if s.signed then .sChar else .charS
    else if s.base = "__int128" then if s.unsigned then .uInt128 else .int128
    else s.integer := by
  unfold kind
  split <;> simp_all

lemma ofList_perm (hp : us.Perm ws) (h : (bases ws).length ≤ 1) : ofList us = ofList ws := by
  have hbases : bases us = bases ws := by
    have hf : (bases us).Perm (bases ws) := hp.filter _
    cases hb : bases ws with
    | nil => exact List.perm_nil.mp (hb ▸ hf)
    | cons b bs =>
      obtain rfl : bs = [] := by
        rw [hb, List.length_cons] at h
        exact List.length_eq_zero_iff.mp (by omega)
      exact List.perm_singleton.mp (hb ▸ hf)
  rw [ofList_eq, ofList_eq, hp.contains_eq, hp.contains_eq, hp.count_eq, hp.count_eq, hbases]

lemma kind_signed {s : SizeWords} (h : s.unsigned = false) :
    { s with signed := true }.kind = s.kind ↔ s.base ≠ "char" ∨ s.signed = true := by
  rw [kind_eq, kind_eq]
  by_cases hb : s.base = "char"
  · cases hs : s.signed <;> simp [hb, h]
  · simp [hb, integer]

lemma kind_int {s : SizeWords} (h : s.base = "") : { s with base := "int" }.kind = s.kind := by
  rw [kind_eq, kind_eq]
  simp [h, integer]

lemma base_eq_iff {b : String} (h : (bases ws).length ≤ 1) (hb : b ∉ Word.sizes) (hne : b ≠ "") :
    (ofList ws).base = b ↔ b ∈ ws := by
  have hmem : b ∈ ws ↔ b ∈ bases ws := by simp [bases, hb]
  rw [ofList_eq, hmem]
  dsimp only
  cases hbs : bases ws with
  | nil => simpa using hne.symm
  | cons a as =>
    obtain rfl : as = [] := by
      rw [hbs, List.length_cons] at h
      exact List.length_eq_zero_iff.mp (by omega)
    simp [eq_comm]

lemma ofList_signed (ws : List String) : ofList ("signed" :: ws) = { ofList ws with signed := true } := by
  rw [ofList_eq, ofList_eq, bases_signed]
  simp

lemma ofList_int (h : bases ws = []) : ofList ("int" :: ws) = { ofList ws with base := "int" } := by
  rw [ofList_eq, ofList_eq, bases_int, h]
  simp

end SizeWords

/-- The kind of a type of size words and at most one base depends neither on the order of the words nor on the
blanks between them. A `signed` matters for characters only, and `int` for nothing. -/
theorem sized_kind_of_words {ws : List String} {text : String} (hone : (bases ws).length ≤ 1)
    (ht : Spaced text.toList ws) :
    (∀ us text', us.Perm ws → Spaced text'.toList us → sizedKind text' = sizedKind text) ∧
    (∀ us text', us.Perm ("signed" :: ws) → Spaced text'.toList us → "unsigned" ∉ ws →
      (sizedKind text' = sizedKind text ↔ "char" ∉ ws ∨ "signed" ∈ ws)) ∧
    ∀ us text', us.Perm ("int" :: ws) → Spaced text'.toList us → bases ws = [] →
      sizedKind text' = sizedKind text := by
  have hwords : words text = ws := words_of_spaced ht
  refine ⟨fun us text' hp hu => ?_, fun us text' hp hu hn => ?_, fun us text' hp hu hb => ?_⟩
  · rw [sizedKind, sizedKind, words_of_spaced hu, hwords, SizeWords.ofList_perm hp hone]
  · have hsigned : ((SizeWords.ofList ws).signed = true ↔ "signed" ∈ ws) := by simp [SizeWords.ofList_eq]
    have hunsigned : (SizeWords.ofList ws).unsigned = false := by simp [SizeWords.ofList_eq, hn]
    rw [sizedKind, sizedKind, words_of_spaced hu, hwords,
      SizeWords.ofList_perm hp ((bases_signed ws).symm ▸ hone), SizeWords.ofList_signed,
      SizeWords.kind_signed hunsigned, hsigned, Ne, SizeWords.base_eq_iff hone (by decide) (by decide)]
  · have hbase : (SizeWords.ofList ws).base = "" := by simp [SizeWords.ofList_eq, hb]
    have hint : (bases ("int" :: ws)).length ≤ 1 := by rw [bases_int, hb, List.length_singleton]
    rw [sizedKind, sizedKind, words_of_spaced hu, hwords, SizeWords.ofList_perm hp hint, SizeWords.ofList_int hb,
      SizeWords.kind_int hbase]

theorem sized_kind_of_words_in_any_order :
    sizedKind "long\tunsigned  int long\n" = sizedKind "unsigned long long int" ∧
      (sizedKind "unsigned long long int" = .uLongLong ∧ sizedKind "unsigned long int" ≠ .uLongLong) ∧
      sizedKind "long signed double" = sizedKind "long double" ∧ sizedKind "signed char" ≠ sizedKind "char" ∧
      sizedKind "int short" = sizedKind "short" := by
  obtain ⟨horder, -⟩ := @sized_kind_of_words ["unsigned", "long", "long", "int"] "unsigned long long int" (by decide)
    (spaced_iff.mpr (by decide +kernel))
  obtain ⟨-, hsigned, -⟩ := @sized_kind_of_words ["long", "double"] "long double" (by decide)
    (spaced_iff.mpr (by decide +kernel))
  obtain ⟨-, hchar, -⟩ := @sized_kind_of_words ["char"] "char" (by decide) (spaced_iff.mpr (by decide +kernel))
  obtain ⟨-, -, hint⟩ := @sized_kind_of_words ["short"] "short" (by decide) (spaced_iff.mpr (by decide +kernel))
  refine ⟨?_, ?_, ?_, ?_, ?_⟩
  · exact horder ["long", "unsigned", "int", "long"] _ (by decide) (spaced_iff.mpr (by decide +kernel))
  · decide +kernel
  · exact (hsigned ["long", "signed", "double"] _ (by decide) (spaced_iff.mpr (by decide +kernel)) (by decide)).mpr
      (by decide)
  · exact fun h => absurd
      ((hchar ["signed", "char"] _ (by decide) (spaced_iff.mpr (by decide +kernel)) (by decide)).mp h) (by decide)
  · exact hint ["int", "short"] _ (by decide) (spaced_iff.mpr (by decide +kernel)) (by decide)

end Quadrature.C
