import Quadrature.Proofs.Readings

/-! Words in a row and the plain types that they spell. -/

namespace Quadrature.C

variable {p q n star : Piece} {ps ts rest : List Piece} {t w : String}

lemma Piece.word?_eq_some (h : p.word? = some w) : p.token = .lexeme .word ∧ p.text = w := by
  rw [Piece.word?] at h
  split at h
  · next ht => exact ⟨ht, Option.some.inj h⟩
  · exact nomatch h

lemma Piece.isAny_of_word (h : p.word? = some w) (ws : List String) : p.isAny ws = ws.contains w := by
  rw [Piece.isAny, h]
  rfl

lemma Piece.isAny_of_none (h : p.word? = none) (ws : List String) : p.isAny ws = false := by
  rw [Piece.isAny, h]
  rfl

lemma Piece.isMark_of_word (h : p.word? = some w) (m : String) : p.isMark m = false := by
  rw [Piece.isMark, (Piece.word?_eq_some h).1]

lemma Piece.round?_of_word (h : p.word? = some w) : p.round? = none := by
  rw [Piece.round?, (Piece.word?_eq_some h).1]

lemma Piece.isMark_eq_true {m : String} (h : p.isMark m = true) :
    p.token = .lexeme .mark ∧ p.text = m := by
  rw [Piece.isMark] at h
  split at h
  · next ht => exact ⟨ht, beq_iff_eq.mp h⟩
  · cases h

lemma Piece.exists_word {ws : List String} (h : ps.map Piece.word? = ws.map some) (hp : p ∈ ps) :
    ∃ w, p.word? = some w := by
  have hm : p.word? ∈ ws.map some := h ▸ List.mem_map_of_mem hp
  obtain ⟨w, -, hw⟩ := List.mem_map.mp hm
  exact ⟨w, hw.symm⟩

def plainTypes : List String :=
  ["char", "void", "bool", "unsigned char", "char16_t", "char32_t", "wchar_t", "short",
    "unsigned short", "int", "unsigned int", "long", "unsigned long", "long long",
    "unsigned long long", "float", "double", "long double"]

def hasSize (t : String) : Bool := (Text.words t).any Word.sizes.contains

def hasBase (t : String) : Bool := (Text.words t).any fun w => !Word.sizes.contains w

def plainSpecifier (t : String) : Specifier :=
  if hasSize t then .sized t else if Word.primitives.contains t then .primitive t else .named t

def continues : Bool → List String → Bool
  | _, [] => true
  | base, w :: ws =>
    if Word.sizes.contains w then continues base ws
    else Word.primitives.contains w && !base && continues true ws

structure Spells (t : String) (ts : List Piece) : Prop where
  words : ts.map Piece.word? = (Text.words t).map some
  source : Piece.source ts = t

lemma wordTypes_append {ws : List String} (hts : ts.map Piece.word? = ws.map some)
    {taken : List Piece} {base size : Bool} {rank : Int} (hw : continues base ws = true)
    (rest : List Piece) :
    wordTypes false taken base size rank (ts ++ rest) =
      wordTypes false (taken ++ ts) (base || ws.any fun w => !Word.sizes.contains w)
        (size || ws.any Word.sizes.contains) rank rest := by
  induction ws generalizing ts taken base size with
  | nil =>
    obtain rfl : ts = [] := by simpa using hts
    simp
  | cons w ws ih =>
    cases ts with
    | nil => simp at hts
    | cons p ts =>
      obtain ⟨hp, hts⟩ := List.cons.inj hts
      rw [continues] at hw
      rw [List.cons_append, wordTypes, Piece.isAny_of_word hp, Piece.isAny_of_word hp]
      split_ifs at hw with hs
      · rw [if_pos hs, ih hts hw]
        simp only [List.any_cons, hs, Bool.not_true, Bool.false_or, Bool.true_or, Bool.or_true,
          List.append_assoc, List.singleton_append, Bool.false_eq_true, if_false, List.nil_append]
      · simp only [Bool.and_eq_true, Bool.not_eq_true'] at hw
        obtain ⟨⟨hprim, rfl⟩, hw⟩ := hw
        rw [if_neg hs, hprim, if_pos (by rfl), ih hts hw]
        rw [Bool.not_eq_true] at hs
        simp only [List.any_cons, hs, Bool.not_false, Bool.false_or, Bool.true_or, List.append_assoc,
          List.singleton_append, Bool.false_eq_true, if_false, List.nil_append]

def headWord (t : String) : String := (Text.words t).headD ""

lemma plainTypes_words : ∀ t ∈ plainTypes, Text.words t = headWord t :: (Text.words t).tail ∧
    headWord t ∉ Word.tags ∧ headWord t ∉ Word.modifiers ∧
    continues (!Word.sizes.contains (headWord t)) (Text.words t).tail = true := by
  decide +kernel

lemma Spells.exists_cons (ht : t ∈ plainTypes) (h : Spells t ts) :
    ∃ p ps, ts = p :: ps ∧ p.word? = some (headWord t) ∧
      ps.map Piece.word? = (Text.words t).tail.map some := by
  have hw := h.words
  rw [(plainTypes_words t ht).1, List.map_cons] at hw
  cases ts with
  | nil => cases hw
  | cons p ps => exact ⟨p, ps, rfl, List.cons.inj hw⟩

lemma callType_eq_nil (h : ∀ q ∈ ps.head?, q.round? = none) : callType p ps = [] := by
  cases ps with
  | nil => rfl
  | cons q ps => simp [callType, h q rfl]

lemma typeReadings_spells (ht : t ∈ plainTypes) (h : Spells t ts)
    (hr : ∀ q ∈ rest.head?, q.round? = none) :
    typeReadings false (ts ++ rest) = wordTypes false ts (hasBase t) (hasSize t) 0 rest := by
  obtain ⟨hwords, htags, hmod, hcont⟩ := plainTypes_words t ht
  obtain ⟨p, ps, rfl, hp, hps⟩ := h.exists_cons ht
  have hcall : callType p (ps ++ rest) = [] := by
    refine callType_eq_nil fun q hq => ?_
    cases ps with
    | nil => exact hr q hq
    | cons q' ps =>
      obtain rfl : q' = q := by simpa using hq
      obtain ⟨w, hw⟩ := Piece.exists_word hps List.mem_cons_self
      exact Piece.round?_of_word hw
  have htag : ∀ w ∈ Word.tags, (headWord t == w) = false := by
    intro w hw
    rw [beq_eq_false_iff_ne]
    exact fun he => htags (he ▸ hw)
  rw [List.cons_append, typeReadings, hp]
  dsimp only
  rw [htag "struct" (by decide), htag "union" (by decide), htag "enum" (by decide), if_neg Bool.false_ne_true,
    if_neg Bool.false_ne_true, if_neg Bool.false_ne_true, hasBase, hasSize, hwords, List.any_cons,
    List.any_cons]
  cases hs : Word.sizes.contains (headWord t) with
  | true =>
    rw [hs] at hcont
    rw [if_pos rfl]
    exact wordTypes_append hps hcont rest
  | false =>
    rw [hs] at hcont
    have hm : Word.modifiers.contains (headWord t) = false := by simpa using hmod
    rw [if_neg Bool.false_ne_true, hm, if_neg Bool.false_ne_true, hcall, List.append_nil, ite_self]
    exact wordTypes_append hps hcont rest

lemma wordType_spells (ht : t ∈ plainTypes) (h : Spells t ts) :
    wordType ts (hasSize t) = plainSpecifier t := by
  have hone : ∀ t ∈ plainTypes, hasSize t = false → Text.words t = [t] := by decide +kernel
  cases hs : hasSize t with
  | true => simp only [wordType, plainSpecifier, hs, if_true, h.source]
  | false =>
    obtain ⟨p, ps, rfl, hp, hps⟩ := h.exists_cons ht
    have hw := hone t ht hs
    rw [headWord, hw] at hp
    obtain rfl : ps = [] := by simpa [hw] using hps
    simp [wordType, plainSpecifier, hs, (Piece.word?_eq_some hp).2]

lemma wordTypes_stop {taken : List Piece} {base size : Bool} {rank : Int}
    (h : ∀ q ∈ rest.head?, q.word? = none) :
    wordTypes false taken base size rank rest = [⟨rank, wordType taken size, rest⟩] := by
  cases rest with
  | nil => rfl
  | cons q rest =>
    have hq := h q rfl
    simp [wordTypes, Piece.isAny_of_none hq, Piece.isBaseName, hq]

/-- A word behind a type is the name being declared, or else the base of a sized type. -/
lemma wordTypes_name {taken : List Piece} {base size : Bool} {rank : Int} (hn : n.word? = some w)
    (hs : w ∉ Word.sizes) (hp : base = true ∨ w ∉ Word.primitives)
    (hr : ∀ q ∈ rest.head?, q.word? = none) :
    wordTypes false taken base size rank (n :: rest) = ⟨rank, wordType taken size, n :: rest⟩ ::
      if n.isBaseName && !base then [⟨rank - 1, wordType (taken ++ [n]) size, rest⟩] else [] := by
  have hsz : Word.sizes.contains w = false := by simpa using hs
  have hpr : (Word.primitives.contains w && !base) = false := by
    rcases hp with rfl | hp
    · simp
    · simp [hp]
  rw [wordTypes, Piece.isAny_of_word hn, Piece.isAny_of_word hn, hsz, hpr, if_neg Bool.false_ne_true,
    if_neg Bool.false_ne_true]
  split_ifs
  · rw [wordTypes_stop hr]
  · rfl

structure Piece.Plain (p : Piece) : Prop where
  word : ∀ w, p.word? = some w → w ∉ Word.modifiers
  square : p.square? = none

lemma Piece.Plain.isAny (h : p.Plain) {ws : List String} (hws : ws ⊆ Word.modifiers) :
    p.isAny ws = false := by
  cases hw : p.word? with
  | none => exact Piece.isAny_of_none hw ws
  | some w =>
    rw [Piece.isAny_of_word hw]
    simpa using fun hm => h.word w hw (hws hm)

lemma Piece.Plain.isModifier (h : p.Plain) : p.isModifier = false := by
  rw [Piece.isModifier, h.isAny (by decide), Piece.isSquare, h.square]
  rfl

lemma Piece.Plain.isModifierPair (h : p.Plain) (q : Piece) : p.isModifierPair q = false := by
  have hd : p.isWord Word.declspec = false := by
    rw [Piece.isWord, beq_eq_false_iff_ne]
    exact fun hw => h.word _ hw (by decide)
  rw [Piece.isModifierPair, h.isAny (by decide), h.isAny (by decide), hd]
  rfl

lemma Piece.Plain.dropModifiers_cons (h : p.Plain) (ps : List Piece) : dropModifiers (p :: ps) = p :: ps := by
  cases ps with
  | nil => simp [dropModifiers, h.isModifier]
  | cons q ps => simp [dropModifiers, h.isModifier, h.isModifierPair q]

lemma Piece.plain_of_word (h : p.word? = some w) (hw : w ∉ Word.modifiers) : p.Plain where
  word v hv := by
    obtain rfl := Option.some.inj (h.symm.trans hv)
    exact hw
  square := by rw [Piece.square?, (Piece.word?_eq_some h).1]

lemma specifierReadings_eq (ht : t ∈ plainTypes) (h : Spells t ts)
    (hr : ∀ q ∈ rest.head?, q.round? = none) :
    specifierReadings (ts ++ rest) = (wordTypes false ts (hasBase t) (hasSize t) 0 rest).map
      fun r => ⟨r.rank, r.value.1, dropModifiers r.value.2⟩ := by
  have hd : dropModifiers (ts ++ rest) = ts ++ rest := by
    obtain ⟨p, ps, rfl, hp, -⟩ := h.exists_cons ht
    exact (Piece.plain_of_word hp (plainTypes_words t ht).2.2.1).dropModifiers_cons _
  rw [specifierReadings, hd, typeReadings_spells ht h hr]

structure Declarable (t w : String) : Prop where
  modifiers : w ∉ Word.modifiers
  sizes : w ∉ Word.sizes
  primitives : hasBase t = true ∨ w ∉ Word.primitives

lemma specifierReadings_name (ht : t ∈ plainTypes) (h : Spells t ts) (hn : n.word? = some w)
    (hw : Declarable t w) (hr : ∀ q ∈ rest.head?, q.word? = none) :
    specifierReadings (ts ++ n :: rest) = ⟨0, plainSpecifier t, n :: rest⟩ ::
      if n.isBaseName && !hasBase t then
        [⟨-1, wordType (ts ++ [n]) (hasSize t), dropModifiers rest⟩] else [] := by
  have hround : ∀ q ∈ (n :: rest).head?, q.round? = none := by
    intro q hq
    obtain rfl := Option.some.inj hq
    exact Piece.round?_of_word hn
  rw [specifierReadings_eq ht h hround, wordTypes_name hn hw.sizes hw.primitives hr, List.map_cons,
    (Piece.plain_of_word hn hw.modifiers).dropModifiers_cons, wordType_spells ht h]
  split_ifs <;> rfl

end Quadrature.C
