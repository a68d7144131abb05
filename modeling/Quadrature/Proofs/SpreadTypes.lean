import Quadrature.Proofs.ParameterText
import Quadrature.Proofs.SizedTypes

/-! Types whose words have blanks and comments between them: what the scanner takes from such a type, and the
specifier that is read from its pieces. -/

namespace Quadrature.C

open Lexeme Scan

variable {p n b c : Piece} {ps ts us vs rest : List Piece} {w v : String}

lemma continues_append {xs : List String} (base : Bool) (h : ∀ x ∈ xs, x ∈ Word.sizes) (ys : List String) :
    continues base (xs ++ ys) = continues base ys := by
  induction xs with
  | nil => rfl
  | cons x xs ih =>
    obtain ⟨hx, hxs⟩ := List.forall_mem_cons.mp h
    rw [List.cons_append, continues, if_pos (by simpa using hx), ih hxs]

lemma continues_sizes {xs : List String} (base : Bool) (h : ∀ x ∈ xs, x ∈ Word.sizes) :
    continues base xs = true := by
  have he := continues_append base h []
  rw [List.append_nil] at he
  rw [he]
  rfl

def gapped (xs : List (String × String)) : List Written := xs.map fun x => ⟨x.1, x.2, .word⟩

lemma charsOf_gapped (xs : List (String × String)) :
    charsOf (gapped xs) = (String.join (xs.map fun x => x.1 ++ x.2)).toList := by
  induction xs with
  | nil => rfl
  | cons x xs ih =>
    rw [gapped, List.map_cons, charsOf_cons, ← gapped, ih, List.map_cons, String.join_cons]
    simp

lemma filled_gapped {xs : List (String × String)} {rest : List Char}
    (hgaps : ∀ x ∈ xs, Filler x.1.toList ∧ x.1.toList ≠ []) (hwords : ∀ x ∈ xs, IsIdentifier x.2.toList)
    (hr : Apart rest) : Filled (gapped xs) rest ∧ Apart (charsOf (gapped xs) ++ rest) := by
  induction xs with
  | nil => exact ⟨trivial, hr⟩
  | cons x xs ih =>
    obtain ⟨hx, hgaps⟩ := List.forall_mem_cons.mp hgaps
    obtain ⟨hw, hwords⟩ := List.forall_mem_cons.mp hwords
    obtain ⟨hfilled, hapart⟩ := ih hgaps hwords
    refine ⟨⟨hx.1, takes_word hw hapart, hfilled⟩, ?_⟩
    rw [gapped, List.map_cons, charsOf_cons, List.append_assoc, List.append_assoc]
    exact hx.1.apart hx.2 _

lemma words_of_gapped {xs : List (String × String)} (h : List.Forall₂ Shows (gapped xs) ps) :
    ps.map Piece.word? = (xs.map Prod.snd).map some := by
  induction xs generalizing ps with
  | nil =>
    cases h
    rfl
  | cons x xs ih =>
    obtain ⟨p, ps, hp, hps, rfl⟩ := List.forall₂_cons_left_iff.mp h
    rw [List.map_cons, List.map_cons, List.map_cons, word?_of_shows hp, ih hps]

def IsBase (w : String) : Prop :=
  w ∈ Word.primitives ∨ IsIdentifier w.toList ∧ Word.isTypeName w = true ∧ w ∉ Word.callModifiers

instance : DecidablePred IsBase := fun _ => inferInstanceAs (Decidable (_ ∨ _))

/-- A type as it is written: size words and at most one base, each but the first with the blanks and comments
before it. -/
structure TypeText where
  first : String
  more : List (String × String)
  gaps : ∀ x ∈ more, Filler x.1.toList ∧ x.1.toList ≠ []
  base : ∀ w ∈ bases (first :: more.map Prod.snd), IsBase w
  single : (bases (first :: more.map Prod.snd)).length ≤ 1

namespace TypeText

variable {t : TypeText}

def words (t : TypeText) : List String := t.first :: t.more.map Prod.snd

def text (t : TypeText) : String := String.join (t.first :: t.more.map fun x => x.1 ++ x.2)

def isSized (t : TypeText) : Bool := t.words.any Word.sizes.contains

def hasBase (t : TypeText) : Bool := t.words.any fun w => !Word.sizes.contains w

def specifier (t : TypeText) : Specifier :=
  if t.isSized then .sized t.text
  else if Word.primitives.contains t.first then .primitive t.first else .named t.first

def written (lead : String) (t : TypeText) : List Written :=
  ⟨lead, t.first, .word⟩ :: gapped t.more

lemma mem_cases (hw : w ∈ t.words) : w ∈ Word.sizes ∨ IsBase w := by
  by_cases hs : w ∈ Word.sizes
  · exact .inl hs
  · exact .inr (t.base w (List.mem_filter.mpr ⟨hw, by simpa using hs⟩))

lemma isIdentifier (hw : w ∈ t.words) : IsIdentifier w.toList := by
  have hsizes : ∀ w ∈ Word.sizes, IsIdentifier w.toList := by decide +kernel
  have hprimitives : ∀ w ∈ Word.primitives, IsIdentifier w.toList := by decide +kernel
  rcases mem_cases hw with hs | hp | ⟨hi, -⟩
  · exact hsizes w hs
  · exact hprimitives w hp
  · exact hi

lemma not_mem_reserved (hw : w ∈ t.words) : w ∉ Word.modifiers ++ Word.tags ++ Word.callModifiers := by
  have hsizes : ∀ w ∈ Word.sizes ++ Word.primitives, w ∉ Word.modifiers ++ Word.tags ++ Word.callModifiers := by
    decide +kernel
  rcases mem_cases hw with hs | hp | ⟨-, hn, hc⟩
  · exact hsizes w (List.mem_append_left _ hs)
  · exact hsizes w (List.mem_append_right _ hp)
  · simp only [Word.isTypeName, Word.types, Bool.and_eq_true, Bool.not_eq_true', List.contains_eq_mem,
      decide_eq_false_iff_not, List.mem_append, not_or] at hn
    simp only [List.mem_append, not_or]
    exact ⟨⟨hn.1, hn.2.1.1⟩, hc⟩

lemma continues_or_base (t : TypeText) :
    continues (!Word.sizes.contains t.first) (t.more.map Prod.snd) = true ∨
      ∃ xs b ys, t.more.map Prod.snd = xs ++ b :: ys ∧ t.first ∈ Word.sizes ∧ (∀ x ∈ xs, x ∈ Word.sizes) ∧
        (∀ y ∈ ys, y ∈ Word.sizes) ∧ b ∉ Word.sizes ∧ b ∉ Word.primitives := by
  have hone := t.single
  cases hb : bases (t.first :: t.more.map Prod.snd) with
  | nil =>
    have hmem : ∀ w ∈ t.first :: t.more.map Prod.snd, w ∈ Word.sizes := by
      simpa [bases] using hb
    exact .inl (continues_sizes _ fun w hw => hmem w (List.mem_cons_of_mem _ hw))
  | cons b bs =>
    obtain rfl : bs = [] := by
      rw [hb, List.length_cons] at hone
      exact List.length_eq_zero_iff.mp (by omega)
    obtain ⟨xs, ys, he, hxs, hbase, hys⟩ := List.filter_eq_cons_iff.mp hb
    have hxs' : ∀ x ∈ xs, x ∈ Word.sizes := by simpa using hxs
    have hys' : ∀ y ∈ ys, y ∈ Word.sizes := by simpa using hys
    have hbase' : b ∉ Word.sizes := by simpa using hbase
    cases xs with
    | nil =>
      obtain ⟨-, hmore⟩ := List.cons.inj he
      exact .inl (hmore ▸ continues_sizes _ hys')
    | cons x xs =>
      rw [List.cons_append] at he
      obtain ⟨hfirst, hmore⟩ := List.cons.inj he
      obtain ⟨hx, hxs'⟩ := List.forall_mem_cons.mp hxs'
      rw [hmore, hfirst]
      by_cases hp : b ∈ Word.primitives
      · refine .inl ?_
        rw [continues_append _ hxs', continues, if_neg (by simpa using hbase'), continues_sizes true hys']
        simp [hx, hp]
      · exact .inr ⟨xs, b, ys, rfl, hx, hxs', hys', hbase', hp⟩

structure Reads (t : TypeText) (ts : List Piece) : Prop where
  words : ts.map Piece.word? = t.words.map some
  source : Piece.source ts = t.text

lemma Reads.exists_cons (h : t.Reads ts) : ∃ p ps, ts = p :: ps ∧ p.word? = some t.first ∧
    ps.map Piece.word? = (t.more.map Prod.snd).map some := by
  have hw := h.words
  rw [TypeText.words, List.map_cons] at hw
  cases ts with
  | nil => cases hw
  | cons p ps => exact ⟨p, ps, rfl, List.cons.inj hw⟩

lemma charsOf_written (lead : String) (t : TypeText) : charsOf (t.written lead) = lead.toList ++ t.text.toList := by
  rw [written, charsOf_cons, charsOf_gapped, text, String.join_cons]
  simp

lemma filled_written {lead : String} {rest : List Char} (hl : Filler lead.toList) (hr : Apart rest) :
    Filled (t.written lead) rest := by
  have hwords : ∀ x ∈ t.more, IsIdentifier x.2.toList :=
    fun x hx => t.isIdentifier (List.mem_cons_of_mem _ (List.mem_map_of_mem hx))
  obtain ⟨hfilled, hapart⟩ := filled_gapped t.gaps hwords hr
  exact ⟨hl, takes_word (t.isIdentifier List.mem_cons_self) hapart, hfilled⟩

lemma reads_of_shows {lead : String} (h : List.Forall₂ Shows (t.written lead) ts) : t.Reads ts := by
  obtain ⟨p, ps, hp, hps, rfl⟩ := List.forall₂_cons_left_iff.mp h
  refine ⟨?_, ?_⟩
  · rw [List.map_cons, word?_of_shows hp, words_of_gapped hps]
    rfl
  · have hchars := charsOf_written "" t
    rw [written, charsOf_cons] at hchars
    rw [Piece.source, join_of_shows hps, hp.text, ← String.toList_inj]
    simpa using hchars

lemma Reads.wordType_eq (h : t.Reads ts) : wordType ts t.isSized = t.specifier := by
  cases hs : t.isSized with
  | true => simp only [wordType, specifier, hs, if_true, h.source]
  | false =>
    obtain ⟨p, ps, rfl, hp, hps⟩ := h.exists_cons
    -- without a size word there is nothing but the base
    have hnone : ∀ w ∈ t.words, w ∉ Word.sizes := by simpa [isSized] using hs
    have hbases : bases t.words = t.words :=
      List.filter_eq_self.mpr fun w hw => by simpa using hnone w hw
    have hone : t.words.length ≤ 1 := hbases ▸ t.single
    have hmore : t.more = [] := by
      rw [TypeText.words, List.length_cons, List.length_map] at hone
      exact List.length_eq_zero_iff.mp (by omega)
    obtain rfl : ps = [] := by simpa [hmore] using hps
    simp [wordType, specifier, hs, (Piece.word?_eq_some hp).2]

structure Names (t : TypeText) (w : String) : Prop where
  modifiers : w ∉ Word.modifiers
  sizes : w ∉ Word.sizes
  primitives : t.hasBase = true ∨ w ∉ Word.primitives

end TypeText

/-- What is left where a type stops before its base: a name and another word, a size or the name that is
declared. -/
def NameThenWord (name : String) (ps : List Piece) : Prop :=
  ∃ b c rest w v, ps = b :: c :: rest ∧ b.word? = some w ∧ c.word? = some v ∧
    w ∉ Word.modifiers ++ Word.callModifiers ∧ (v ∈ Word.sizes ∨ v = name)

lemma wordTypes_base {xs ys : List String} (hus : us.map Piece.word? = xs.map some)
    (hvs : vs.map Piece.word? = ys.map some) (hxs : ∀ x ∈ xs, x ∈ Word.sizes) (hys : ∀ y ∈ ys, y ∈ Word.sizes)
    (hb : b.word? = some w) (hw : w ∉ Word.sizes) (hp : w ∉ Word.primitives) (hn : b.isBaseName = true)
    (taken : List Piece) (rank : Int) (rest : List Piece) :
    wordTypes false taken false true rank (us ++ b :: (vs ++ rest)) =
      ⟨rank, wordType (taken ++ us) true, b :: (vs ++ rest)⟩ ::
        wordTypes false (taken ++ us ++ b :: vs) true true (rank - 1) rest := by
  have hnone : (xs.any fun x => !Word.sizes.contains x) = false := by simpa using hxs
  have hsize : b.isAny Word.sizes = false := by
    rw [Piece.isAny_of_word hb]
    simpa using hw
  have hprim : b.isAny Word.primitives = false := by
    rw [Piece.isAny_of_word hb]
    simpa using hp
  rw [wordTypes_append hus (continues_sizes false hxs), hnone, Bool.or_false, Bool.true_or, wordTypes, hsize,
    hprim, hn, if_neg Bool.false_ne_true, if_neg (by simp), if_pos (by rfl),
    wordTypes_append hvs (continues_sizes true hys)]
  simp

namespace TypeText

variable {t : TypeText}

lemma Reads.typeReadings_eq (h : t.Reads (p :: ps)) (hr : ∀ q ∈ (ps ++ rest).head?, q.round? = none) :
    typeReadings false (p :: ps ++ rest) =
      wordTypes false [p] (!Word.sizes.contains t.first) (Word.sizes.contains t.first) 0 (ps ++ rest) := by
  obtain ⟨_, _, he, hp, -⟩ := h.exists_cons
  obtain ⟨rfl, rfl⟩ := List.cons.inj he
  have hres := not_mem_reserved (t := t) List.mem_cons_self
  simp only [List.mem_append, not_or] at hres
  obtain ⟨⟨hmod, htags⟩, -⟩ := hres
  have htag : ∀ w ∈ Word.tags, (t.first == w) = false := by
    intro w hw
    rw [beq_eq_false_iff_ne]
    exact fun he => htags (he ▸ hw)
  have hm : Word.modifiers.contains t.first = false := by simpa using hmod
  rw [List.cons_append, typeReadings, hp]
  dsimp only
  rw [htag "struct" (by decide), htag "union" (by decide), htag "enum" (by decide), if_neg Bool.false_ne_true,
    if_neg Bool.false_ne_true, if_neg Bool.false_ne_true, hm, if_neg Bool.false_ne_true, callType_eq_nil hr,
    List.append_nil, ite_self]
  cases Word.sizes.contains t.first <;> rfl

lemma Reads.typeReadings_name (h : t.Reads ts) (hn : n.word? = some w) (hw : t.Names w)
    (hr : ∀ q ∈ rest.head?, q.word? = none) :
    ∃ stops rank, typeReadings false (ts ++ n :: rest) = stops ++ ⟨rank, t.specifier, n :: rest⟩ ::
        (if n.isBaseName && !t.hasBase then [⟨rank - 1, wordType (ts ++ [n]) t.isSized, rest⟩] else []) ∧
      ∀ x ∈ stops, NameThenWord w x.value.2 := by
  obtain ⟨p, ps, rfl, hp, hps⟩ := h.exists_cons
  have hround : ∀ q ∈ (ps ++ n :: rest).head?, q.round? = none := by
    intro q hq
    cases ps with
    | nil =>
      obtain rfl : n = q := by simpa using hq
      exact Piece.round?_of_word hn
    | cons q' ps =>
      obtain rfl : q' = q := by simpa using hq
      obtain ⟨v, hv⟩ := Piece.exists_word hps List.mem_cons_self
      exact Piece.round?_of_word hv
  rw [h.typeReadings_eq hround]
  have hbase : t.hasBase = (!Word.sizes.contains t.first ||
      (t.more.map Prod.snd).any fun w => !Word.sizes.contains w) := List.any_cons
  have hsize : t.isSized = (Word.sizes.contains t.first || (t.more.map Prod.snd).any Word.sizes.contains) :=
    List.any_cons
  rcases t.continues_or_base with hc | ⟨xs, b, ys, he, hfirst, hxs, hys, hbs, hbp⟩
  · refine ⟨[], 0, ?_, by simp⟩
    rw [wordTypes_append hps hc, ← hbase, ← hsize, wordTypes_name hn hw.sizes hw.primitives hr,
      List.singleton_append, h.wordType_eq, List.nil_append]
  · have hsizes : Word.sizes.contains t.first = true := by simpa using hfirst
    have hb : b ∈ t.words := by simp [TypeText.words, he]
    rw [he, List.map_append, List.map_cons] at hps
    obtain ⟨us, _, rfl, hus, hbs'⟩ := List.map_eq_append_iff.mp hps
    obtain ⟨q, vs, rfl, hq, hvs⟩ := List.map_eq_cons_iff.mp hbs'
    obtain ⟨hname, hcall⟩ : Word.isTypeName b = true ∧ b ∉ Word.callModifiers := by
      rcases mem_cases hb with hs | hp' | ⟨-, hnc⟩
      · exact absurd hs hbs
      · exact absurd hp' hbp
      · exact hnc
    have hqn : q.isBaseName = true := by
      rw [Piece.isBaseName, hq]
      simp [hname, hcall]
    have hhas : t.hasBase = true := by
      rw [hbase, he]
      simp [hbs]
    have hsized : t.isSized = true := by rw [hsize, hsizes, Bool.true_or]
    refine ⟨[⟨0, wordType ([p] ++ us) true, q :: (vs ++ n :: rest)⟩], -1, ?_, ?_⟩
    · have hcons : [p] ++ us ++ q :: vs = p :: (us ++ q :: vs) := rfl
      have hspec := h.wordType_eq
      rw [hsized] at hspec
      rw [hsizes, List.append_assoc, List.cons_append, Bool.not_true,
        wordTypes_base hus hvs hxs hys hq hbs hbp hqn, hcons,
        wordTypes_name hn hw.sizes (.inl rfl) hr, hspec, hhas, hsized]
      simp
    · intro x hx
      obtain rfl := List.mem_singleton.mp hx
      have hres : b ∉ Word.modifiers ++ Word.callModifiers := by
        have := not_mem_reserved hb
        simp only [List.mem_append, not_or] at this ⊢
        exact ⟨this.1.1, this.2⟩
      cases vs with
      | nil => exact ⟨q, n, rest, b, w, rfl, hq, hn, hres, .inr rfl⟩
      | cons c vs =>
        obtain ⟨v, hv⟩ := Piece.exists_word hvs List.mem_cons_self
        have hmem : some v ∈ ys.map some := hvs ▸ hv ▸ List.mem_cons_self
        obtain ⟨y, hy, hyv⟩ := List.mem_map.mp hmem
        exact ⟨q, c, vs ++ n :: rest, b, v, rfl, hq, hv, hres, .inl (Option.some.inj hyv ▸ hys y hy)⟩

end TypeText

namespace NameThenWord

variable {name : String}

lemma dropModifiers_eq (h : NameThenWord name ps) : dropModifiers ps = ps := by
  obtain ⟨b, c, rest, w, v, rfl, hb, -, hw, -⟩ := h
  exact (Piece.plain_of_word hb fun hm => hw (List.mem_append_left _ hm)).dropModifiers_cons _

lemma declaratorReading_eq (h : NameThenWord name ps) : ∃ d c rest v,
    declaratorReading false Word.modifiers false ps = some ⟨0, d, false, c :: rest⟩ ∧ c.word? = some v ∧
      (v ∈ Word.sizes ∨ v = name) := by
  obtain ⟨b, c, rest, w, v, rfl, hb, hc, hw, hv⟩ := h
  exact ⟨.name w, c, rest, v, declaratorReading_words hb (fun hm => hw (List.mem_append_left _ hm)) hc, hc, hv⟩

lemma parameterDeclarators_eq (h : NameThenWord name ps) : parameterDeclarators ps = [] := by
  obtain ⟨d, c, rest, v, hd, -, -⟩ := h.declaratorReading_eq
  obtain ⟨b, c', rest', w, v', rfl, hb, -, -, -⟩ := h
  simp [parameterDeclarators, abstractReading_word hb, hd]

lemma initDeclarators_eq (h : NameThenWord name ps) (ha : name ∉ Word.assembly) (fuel : Nat) :
    initDeclarators fuel ps = none := by
  have hcall : dropCallModifier ps = ps := by
    obtain ⟨b, c, rest, w, v, rfl, hb, -, hw, -⟩ := h
    rw [dropCallModifier, Piece.isAny_of_word hb, if_neg]
    simpa using fun hm => hw (List.mem_append_right _ hm)
  obtain ⟨d, c, rest, v, hd, hc, hv⟩ := h.declaratorReading_eq
  have hassembly : c.isAny Word.assembly = false := by
    have hsizes : ∀ v ∈ Word.sizes, v ∉ Word.assembly := by decide
    rw [Piece.isAny_of_word hc]
    rcases hv with hs | rfl
    · simpa using hsizes v hs
    · simpa using ha
  cases fuel with
  | zero => rfl
  | succ fuel => simp [initDeclarators, initDeclarator, hcall, hd, Piece.isMark_of_word hc, hassembly]

end NameThenWord

namespace TypeText

variable {t : TypeText}

lemma Reads.specifierReadings_name (h : t.Reads ts) (hn : n.word? = some w) (hw : t.Names w)
    (hr : ∀ q ∈ rest.head?, q.word? = none) :
    ∃ stops rank, specifierReadings (ts ++ n :: rest) = stops ++ ⟨rank, t.specifier, n :: rest⟩ ::
        (if n.isBaseName && !t.hasBase then [⟨rank - 1, wordType (ts ++ [n]) t.isSized, dropModifiers rest⟩]
          else []) ∧
      ∀ x ∈ stops, NameThenWord w x.value.2 := by
  obtain ⟨stops, rank, hread, hstops⟩ := h.typeReadings_name hn hw hr
  have hplain : dropModifiers (ts ++ n :: rest) = ts ++ n :: rest := by
    obtain ⟨p, ps, rfl, hp, -⟩ := h.exists_cons
    have hres := not_mem_reserved (t := t) List.mem_cons_self
    simp only [List.mem_append, not_or] at hres
    exact (Piece.plain_of_word hp hres.1.1).dropModifiers_cons _
  refine ⟨stops.map fun r => ⟨r.rank, r.value.1, dropModifiers r.value.2⟩, rank, ?_, ?_⟩
  · rw [specifierReadings, hplain, hread, List.map_append, List.map_cons,
      (Piece.plain_of_word hn hw.modifiers).dropModifiers_cons]
    split_ifs <;> rfl
  · intro x hx
    obtain ⟨r, hr, rfl⟩ := List.mem_map.mp hx
    have hname := hstops r hr
    dsimp only
    rwa [hname.dropModifiers_eq]

lemma Reads.parameterReading_name (h : t.Reads ts) (hn : n.word? = some w) (hw : t.Names w) :
    ∃ rank, parameterReading (ts ++ [n]) = some ⟨rank, t.specifier, .name w⟩ := by
  have hnil : ∀ q ∈ ([] : List Piece).head?, q.word? = none := by simp
  obtain ⟨stops, rank, hread, hstops⟩ := h.specifierReadings_name hn hw hnil
  have hnone : (stops.flatMap fun r => (parameterDeclarators r.value.2).map fun d =>
      (⟨r.rank + d.rank, r.value.1, d.value⟩ : Ranked (Specifier × Declarator))) = [] := by
    refine List.flatMap_eq_nil_iff.mpr fun x hx => ?_
    rw [(hstops x hx).parameterDeclarators_eq]
    rfl
  refine ⟨rank, ?_⟩
  rw [parameterReading, hread, List.flatMap_append, hnone, List.nil_append, List.flatMap_cons,
    parameterDeclarators_name hn hw.modifiers]
  split_ifs
  · have hlt : ¬ rank < rank - 1 := by omega
    simp [dropModifiers, parameterDeclarators, Ranked.best, Ranked.better, hlt]
  · simp [Ranked.best, Ranked.better]

end TypeText

end Quadrature.C
