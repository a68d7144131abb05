import Quadrature.Proofs.CanonicalTypes
import Quadrature.Proofs.SpreadSignatures

/-! The kind and the name that the words of a type come to. -/

namespace Quadrature.Text

variable {s t : String} {c : Char}

lemma wordsOf_break (hc : isBlank c = true) (xs ys acc : List Char) :
    wordsOf (xs ++ c :: ys) acc = wordsOf xs acc ++ wordsOf ys [] := by
  induction xs generalizing acc with
  | nil =>
    rw [List.nil_append, wordsOf_cons, if_pos hc]
    cases acc with
    | nil => rfl
    | cons d acc => rfl
  | cons x xs ih =>
    rw [List.cons_append, wordsOf_cons, wordsOf_cons, ih, ih]
    split_ifs <;> simp

lemma words_append_of_head (h : ∀ c ∈ t.toList.head?, isBlank c = true) : words (s ++ t) = words s ++ words t := by
  rw [words, words, words, String.toList_append]
  cases ht : t.toList with
  | nil =>
    rw [List.append_nil]
    exact (List.append_nil _).symm
  | cons c cs =>
    have hc : isBlank c = true := h c (by simp [ht])
    have htail : wordsOf (c :: cs) [] = wordsOf cs [] := wordsOf_break hc [] cs []
    rw [wordsOf_break hc, htail, List.map_append]

lemma words_append_of_last (h : ∀ c ∈ s.toList.getLast?, isBlank c = true) :
    words (s ++ t) = words s ++ words t := by
  rw [words, words, words, String.toList_append]
  rcases List.eq_nil_or_concat s.toList with hs | ⟨cs, c, hs⟩
  · rw [hs]
    rfl
  · have hc : isBlank c = true := h c (by simp [hs])
    have hfirst : wordsOf (cs ++ [c]) [] = wordsOf cs [] :=
      (wordsOf_break hc cs [] []).trans (List.append_nil _)
    rw [hs, List.concat_eq_append, hfirst, List.append_assoc, List.singleton_append, wordsOf_break hc,
      List.map_append]

end Quadrature.Text

namespace Quadrature.C

open Text Lexeme

def classOf (base : String) : String := if base ∈ ["double", "char", "__int128"] then base else ""

def baseClass (ws : List String) : String := classOf ((bases ws).getLast?.getD "")

/-- Other words are recorded under the name of some words: they have a base of the same class, and the sizes and
the sign that matter to it. -/
@[mk_iff]
structure SameName (ws us : List String) : Prop where
  base : baseClass us = baseClass ws
  unsigned : baseClass ws ≠ "double" → ("unsigned" ∈ us ↔ "unsigned" ∈ ws)
  long : baseClass ws = "double" → ("long" ∈ us ↔ "long" ∈ ws)
  short : baseClass ws = "" → ("short" ∈ us ↔ "short" ∈ ws)
  longs : baseClass ws = "" → "short" ∉ ws → min 2 (us.count "long") = min 2 (ws.count "long")

/-- Other words have the kind of some words. That of `signed char` is not that of `char`. -/
@[mk_iff]
structure SameKind (ws us : List String) : Prop where
  name : SameName ws us
  signed : baseClass ws = "char" → "unsigned" ∉ ws → ("signed" ∈ us ↔ "signed" ∈ ws)

instance (ws us : List String) : Decidable (SameName ws us) :=
  @decidable_of_iff' _ _ (sameName_iff ws us)
    (@instDecidableAnd _ _ inferInstance (@instDecidableAnd _ _ inferInstance inferInstance))

instance (ws us : List String) : Decidable (SameKind ws us) := decidable_of_iff' _ (sameKind_iff ws us)

lemma classOf_cases (base : String) : classOf base = "double" ∨ classOf base = "char" ∨
    classOf base = "__int128" ∨ classOf base = "" := by
  unfold classOf
  split_ifs with h
  · simp only [List.mem_cons, List.not_mem_nil, or_false] at h
    tauto
  · simp

lemma eq_iff_classOf_eq {base b : String} (hb : b ∈ ["double", "char", "__int128"]) :
    base = b ↔ classOf base = b := by
  unfold classOf
  split_ifs with h
  · rfl
  · refine ⟨?_, ?_⟩
    · rintro rfl
      exact absurd hb h
    · rintro rfl
      exact absurd hb (by decide)

namespace SizeWords

def width (s : SizeWords) : Nat := if 0 < s.shorts then 0 else 1 + min 2 s.longs

def integerOf : Nat → Bool → Kind
  | 0, u => if u then .uShort else .short
  | 1, u => if u then .uInt else .int
  | 2, u => if u then .uLong else .long
  | _, u => if u then .uLongLong else .longLong

lemma width_lt (s : SizeWords) : s.width < 4 := by
  unfold width
  split_ifs <;> omega

lemma integer_eq (s : SizeWords) : s.integer = integerOf s.width s.unsigned := by
  have hlongs : s.longs = 0 ∨ s.longs = 1 ∨ 2 ≤ s.longs := by omega
  unfold integer width
  by_cases hs : 0 < s.shorts
  · simp only [hs, if_true, integerOf]
  · rcases hlongs with hl | hl | hl
    · simp [hs, hl, integerOf]
    · simp [hs, hl, integerOf]
    · simp [hs, hl, integerOf]

lemma integerOf_inj : ∀ m < 4, ∀ n < 4, ∀ u v, integerOf m u = integerOf n v ↔ m = n ∧ u = v := by
  decide

lemma width_eq_iff (s r : SizeWords) : s.width = r.width ↔
    (0 < s.shorts ↔ 0 < r.shorts) ∧ (¬ 0 < r.shorts → min 2 s.longs = min 2 r.longs) := by
  unfold width
  by_cases hs : 0 < s.shorts <;> by_cases hr : 0 < r.shorts <;> simp [hs, hr]
  omega

lemma kind_eq_of_class (s : SizeWords) : s.kind =
    if classOf s.base = "double" then if 0 < s.longs then .longDouble else .double
    else if classOf s.base = "char" then if s.unsigned then .uChar else if s.signed then .sChar else .charS
    else if classOf s.base = "__int128" then if s.unsigned then .uInt128 else .int128
    else integerOf s.width s.unsigned := by
  have hd := @eq_iff_classOf_eq s.base "double" (by decide)
  have hc := @eq_iff_classOf_eq s.base "char" (by decide)
  have hi := @eq_iff_classOf_eq s.base "__int128" (by decide)
  rw [kind_eq, integer_eq]
  simp only [hd, hc, hi]

def classOfKind : Kind → String
  | .double | .longDouble => "double"
  | .uChar | .sChar | .charS => "char"
  | .uInt128 | .int128 => "__int128"
  | _ => ""

lemma classOfKind_kind (s : SizeWords) : classOfKind s.kind = classOf s.base := by
  have hinteger : ∀ n < 4, ∀ u, classOfKind (integerOf n u) = "" := by decide
  rw [kind_eq_of_class]
  rcases classOf_cases s.base with h | h | h | h
  · rw [if_pos h, h]
    split_ifs <;> rfl
  · rw [if_neg (by simp [h]), if_pos h, h]
    split_ifs <;> rfl
  · rw [if_neg (by simp [h]), if_neg (by simp [h]), if_pos h, h]
    split_ifs <;> rfl
  · rw [if_neg (by simp [h]), if_neg (by simp [h]), if_neg (by simp [h]), h]
    exact hinteger _ s.width_lt _

lemma kind_eq_kind_iff (s r : SizeWords) : s.kind = r.kind ↔
    classOf s.base = classOf r.base ∧ (classOf r.base ≠ "double" → s.unsigned = r.unsigned) ∧
      (classOf r.base = "char" → r.unsigned = false → s.signed = r.signed) ∧
      (classOf r.base = "double" → (0 < s.longs ↔ 0 < r.longs)) ∧
      (classOf r.base = "" → s.width = r.width) := by
  by_cases hc : classOf s.base = classOf r.base
  · rw [kind_eq_of_class, kind_eq_of_class, hc]
    rcases classOf_cases r.base with h | h | h | h
    · by_cases hs : 0 < s.longs <;> by_cases hr : 0 < r.longs <;> simp [h, hs, hr]
    · cases s.unsigned <;> cases r.unsigned <;> cases s.signed <;> cases r.signed <;> simp [h]
    · cases s.unsigned <;> cases r.unsigned <;> simp [h]
    · have hinteger := integerOf_inj _ s.width_lt _ r.width_lt s.unsigned r.unsigned
      simp [h, hinteger, and_comm]
  · refine iff_of_false (fun he => hc ?_) fun h => hc h.1
    rw [← classOfKind_kind, he, classOfKind_kind]

lemma kind_eq_iff (ws us : List String) : (ofList us).kind = (ofList ws).kind ↔ SameKind ws us := by
  have hmem : ∀ w, (us.contains w = ws.contains w) ↔ (w ∈ us ↔ w ∈ ws) := fun w => by
    rw [Bool.eq_iff_iff, List.contains_iff_mem, List.contains_iff_mem]
  have hnot : ws.contains "unsigned" = false ↔ "unsigned" ∉ ws := by simp
  rw [kind_eq_kind_iff, width_eq_iff, sameKind_iff, sameName_iff, ofList_eq, ofList_eq]
  simp only [hmem, hnot, List.count_pos_iff, imp_and, baseClass]
  tauto

def kinds : List Kind :=
  [.double, .longDouble, .uChar, .sChar, .charS, .uInt128, .int128, .short, .uShort, .int, .uInt, .long, .uLong,
    .longLong, .uLongLong]

lemma kind_mem (s : SizeWords) : s.kind ∈ kinds := by
  have hinteger : ∀ n < 4, ∀ u, integerOf n u ∈ kinds := by decide
  rw [kind_eq_of_class]
  split_ifs
  all_goals first
    | decide
    | exact hinteger _ s.width_lt _

lemma kind_mem_chars_iff (ws : List String) :
    (ofList ws).kind ∈ [.charS, .sChar] ↔ baseClass ws = "char" ∧ "unsigned" ∉ ws := by
  have hchars : ∀ k ∈ kinds, k ∈ [.charS, .sChar] ↔ classOfKind k = "char" ∧ k ≠ .uChar := by decide
  have hclass : classOf (ofList ws).base = baseClass ws := by rw [ofList_eq, baseClass]
  rw [hchars _ (kind_mem _), classOfKind_kind, hclass]
  refine and_congr_right fun h => ?_
  rw [kind_eq_of_class, hclass, h, ofList_eq]
  by_cases hu : "unsigned" ∈ ws <;> by_cases hs : "signed" ∈ ws <;> simp [hu, hs]

/-- The two kinds of characters with a sign have one name. -/
lemma spelled_eq_iff (ws us : List String) :
    (ofList us).kind.spelled = (ofList ws).kind.spelled ↔ SameName ws us := by
  have hspelled : ∀ j ∈ kinds, ∀ k ∈ kinds, j.spelled = k.spelled ↔
      j = k ∨ j ∈ [.charS, .sChar] ∧ k ∈ [Kind.charS, .sChar] := by decide
  rw [hspelled _ (kind_mem _) _ (kind_mem _), kind_eq_iff, kind_mem_chars_iff, kind_mem_chars_iff]
  constructor
  · rintro (h | ⟨⟨hus, hu⟩, hws, hw⟩)
    · exact h.name
    · exact ⟨hus.trans hws.symm, fun _ => iff_of_false hu hw, by simp [hws], by simp [hws], by simp [hws]⟩
  · intro h
    by_cases hc : baseClass ws = "char" ∧ "unsigned" ∉ ws
    · have hu := h.unsigned (by simp [hc.1])
      exact .inr ⟨⟨h.base.trans hc.1, fun hm => hc.2 (hu.mp hm)⟩, hc⟩
    · exact .inl ⟨h, fun hb hu => absurd ⟨hb, hu⟩ hc⟩

end SizeWords

lemma standardAlias_kind {w : String} {k : Kind} (h : standardAlias w = some k) :
    k.isArray = false ∧ k.isFunction = false := by
  unfold standardAlias at h
  split at h <;> cases h <;> exact ⟨rfl, rfl⟩

lemma unexplained_kind (w : String) :
    (unexplained w).isArray = false ∧ (unexplained w).isFunction = false := by
  rw [unexplained]
  cases h : standardAlias w with
  | none => exact ⟨rfl, rfl⟩
  | some k => exact standardAlias_kind h

lemma primitiveType_kind (w : String) :
    (primitiveType w).isArray = false ∧ (primitiveType w).isFunction = false := by
  unfold primitiveType
  split
  all_goals first
    | exact ⟨rfl, rfl⟩
    | exact unexplained_kind w

end Quadrature.C
