import Quadrature.Proofs.SignaturesReadBack
import Quadrature.Proofs.SpreadTypes

/-! Signatures whose types have blanks and comments between their words are read as prototypes, each type with its
text. -/

namespace Quadrature.C

open Lexeme

structure TypedName where
  type : TypeText
  gap : String
  name : String
  filler : Filler gap.toList ∧ gap.toList ≠ []
  isIdentifier : IsIdentifier name.toList
  names : type.Names name

namespace TypedName

open Scan

variable {a : TypedName} {as : List TypedName} {lead : String} {rest : List Char} {ps : List Piece}

def text (a : TypedName) : String := a.type.text ++ a.gap ++ a.name

def entry (a : TypedName) : Specifier × Declarator := (a.type.specifier, .name a.name)

def tokens (lead : String) (a : TypedName) : List Written := a.type.written lead ++ [⟨a.gap, a.name, .word⟩]

lemma charsOf_tokens (lead : String) (a : TypedName) : charsOf (a.tokens lead) = lead.toList ++ a.text.toList := by
  rw [tokens, charsOf_append, TypeText.charsOf_written, text]
  simp [charsOf]

lemma filled_tokens (hl : Filler lead.toList) (hr : Apart rest) : Filled (a.tokens lead) rest := by
  have hname : Filled [⟨a.gap, a.name, .word⟩] rest := ⟨a.filler.1, takes_word a.isIdentifier hr, trivial⟩
  have hapart : Apart (charsOf [⟨a.gap, a.name, .word⟩] ++ rest) := by
    rw [charsOf_cons, List.append_assoc, List.append_assoc]
    exact a.filler.1.apart a.filler.2 _
  exact filled_append (TypeText.filled_written hl hapart) hname

lemma shows_tokens (h : List.Forall₂ Shows (a.tokens lead) ps) :
    ∃ ts n, ps = ts ++ [n] ∧ a.type.Reads ts ∧ n.word? = some a.name := by
  obtain ⟨ts, ns, rfl, hts, hns⟩ := forall₂_append_left h
  obtain ⟨n, _, hn, ⟨⟩, rfl⟩ := List.forall₂_cons_left_iff.mp hns
  exact ⟨ts, n, rfl, TypeText.reads_of_shows hts, word?_of_shows hn⟩

lemma reading_tokens (h : List.Forall₂ Shows (a.tokens lead) ps) :
    NoComma ps ∧ isEllipsis ps = false ∧ ∃ rank, True ∧ parameterReading ps = some ⟨rank, a.entry⟩ := by
  obtain ⟨ts, n, rfl, hts, hn⟩ := shows_tokens h
  have hname : [n].map Piece.word? = [a.name].map some := by simp [hn]
  obtain ⟨rank, hread⟩ := hts.parameterReading_name hn a.names
  refine ⟨noComma_append (noComma_of_words hts.words) (noComma_of_words hname), ?_, rank, trivial, hread⟩
  obtain ⟨p, ps, rfl, hp, -⟩ := hts.exists_cons
  exact isEllipsis_of_word hp

lemma shows_commas (h : List.Forall₂ Shows (commas tokens lead (a :: as)) ps) :
    ∃ p q rest v, ps = p :: q :: rest ∧ p.word? = some a.type.first ∧ q.word? = some v := by
  obtain ⟨us, vs, rfl, hus⟩ : ∃ us vs, ps = us ++ vs ∧ List.Forall₂ Shows (a.tokens lead) us := by
    cases as with
    | nil => exact ⟨ps, [], (List.append_nil ps).symm, h⟩
    | cons b as =>
      obtain ⟨us, vs, he, hus, -⟩ := forall₂_append_left h
      exact ⟨us, vs, he, hus⟩
  obtain ⟨ts, n, rfl, hts, hn⟩ := shows_tokens hus
  obtain ⟨p, ps, rfl, hp, hps⟩ := hts.exists_cons
  cases ps with
  | nil => exact ⟨p, n, vs, a.name, rfl, hp, hn⟩
  | cons q ps =>
    obtain ⟨v, hv⟩ := Piece.exists_word hps List.mem_cons_self
    exact ⟨p, q, _, v, rfl, hp, hv⟩

lemma parameterList_commas (h : List.Forall₂ Shows (commas tokens lead as) ps) :
    ∃ rank xs, C.parameterList ps = some ⟨rank, .ofEntries xs⟩ ∧ xs.map Prod.snd = as.map entry ∧
      enclosedDeclarator false ps = none := by
  cases as with
  | nil =>
    cases h
    exact ⟨0, [], rfl, rfl, rfl⟩
  | cons a as =>
    obtain ⟨rank, -, hlist⟩ := lists_commas (R := fun _ => True) (fun _ _ _ _ => trivial)
      (fun _ _ _ hps => reading_tokens hps) h
    obtain ⟨p, q, rest, v, rfl, hp, hq⟩ := shows_commas h
    obtain ⟨xs, hxs, hentries⟩ := hlist.parameterList (by simp)
    have hres := TypeText.not_mem_reserved (t := a.type) List.mem_cons_self
    exact ⟨rank, xs, hxs, hentries,
      enclosedDeclarator_words hp (fun hm => hres (List.mem_append_right _ hm)) hq⟩

end TypedName

variable {t : TypeText} {w : String} {ts : List Piece} {n r q : Piece} {rank : Int} {params : Parameters}

structure TypeText.Heads (t : TypeText) (w : String) (ts : List Piece) (n r q : Piece) (rank : Int)
    (params : Parameters) : Prop where
  reads : t.Reads ts
  name : n.word? = some w
  names : t.Names w
  call : w ∉ Word.callModifiers
  assembly : w ∉ Word.assembly
  first : t.first ∉ itemWords
  round : ∃ round, r.token = .round round ∧ round.parameters = some ⟨rank, params⟩ ∧ round.declarator = none
  semicolon : q.isMark ";" = true

namespace TypeText.Heads

lemma declarationReading_eq (h : t.Heads w ts n r q rank params) :
    ∃ rank' e, declarationReading (ts ++ [n, r, q]) =
      some ⟨rank', ⟨e, t.specifier, [.function params (.name w)]⟩, []⟩ := by
  obtain ⟨round, hr, hp, hd⟩ := h.round
  have hword : ∀ x ∈ [r, q].head?, x.word? = none := by simp [Piece.word?, hr]
  obtain ⟨stops, rank₀, hread, hstops⟩ := h.reads.specifierReadings_name h.name h.names hword
  have hmain : initDeclarators 3 [n, r, q] = some ⟨rank, [.function params (.name w)], q.extent, []⟩ :=
    initDeclarators_function h.name h.names.modifiers h.call hr hp h.semicolon 2
  -- what stands behind the name is no declarator
  have hlast : ∀ fuel, initDeclarators fuel (dropModifiers [r, q]) = none := by
    have hplain : r.Plain := ⟨fun v hv => by simp [Piece.word?, hr] at hv, by rw [Piece.square?, hr]⟩
    have hcall : dropCallModifier [r, q] = [r, q] := by
      simp [dropCallModifier, Piece.isAny, Piece.word?, hr]
    intro fuel
    rw [hplain.dropModifiers_cons]
    cases fuel with
    | zero => rfl
    | succ fuel => simp [initDeclarators, initDeclarator, hcall, declaratorReading, Piece.isMark, hr, hd]
  obtain ⟨p, ps, rfl, -⟩ := h.reads.exists_cons
  have hnone : (stops.filterMap fun s => (initDeclarators s.value.2.length s.value.2).map fun r =>
      (⟨s.rank + r.rank, ⟨p.extent.upTo r.value.2.1, s.value.1, r.value.1⟩, r.value.2.2⟩ :
        Ranked (Declaration × List Piece))) = [] := by
    refine List.filterMap_eq_nil_iff.mpr fun x hx => ?_
    rw [(hstops x hx).initDeclarators_eq h.assembly]
    rfl
  refine ⟨rank₀ + rank, p.extent.upTo q.extent, ?_⟩
  rw [List.cons_append, declarationReading, ← List.cons_append, hread, List.filterMap_append, hnone,
    List.nil_append]
  split_ifs
  · simp [hmain, hlast, Ranked.best, Ranked.better]
  · simp [hmain, Ranked.best, Ranked.better]

lemma emptyDeclarationEnd_eq (h : t.Heads w ts n r q rank params) :
    emptyDeclarationEnd (ts ++ [n, r, q]) = none := by
  obtain ⟨round, hr, -, -⟩ := h.round
  have hword : ∀ x ∈ [r, q].head?, x.word? = none := by simp [Piece.word?, hr]
  have hmark : r.isMark ";" = false := by rw [Piece.isMark, hr]
  obtain ⟨stops, rank₀, hread, hstops⟩ := h.reads.typeReadings_name h.name h.names hword
  rw [emptyDeclarationEnd, hread, List.findSome?_eq_none_iff]
  intro x hx
  rw [List.mem_append, List.mem_cons] at hx
  rcases hx with hx | rfl | hx
  · obtain ⟨b, c, rest, v, v', he, hb, -⟩ := hstops x hx
    simp [he, Piece.isMark_of_word hb]
  · simp [Piece.isMark_of_word h.name]
  · split_ifs at hx
    · obtain rfl := List.mem_singleton.mp hx
      simp [hmark]
    · cases hx

lemma itemReading_eq (h : t.Heads w ts n r q rank params) (top : Bool) :
    ∃ e, itemReading top (ts ++ [n, r, q]) =
      some ([.declaration ⟨e, t.specifier, [.function params (.name w)]⟩], []) := by
  obtain ⟨rank', e, he⟩ := h.declarationReading_eq
  obtain ⟨round, hr, -, -⟩ := h.round
  have hdeclared : declaredReading true (ts ++ [n, r, q]) =
      some ⟨rank', .declaration ⟨e, t.specifier, [.function params (.name w)]⟩, []⟩ := by
    rw [declaredReading, definitionReadings_eq_nil (curly?_of_words h.reads.words h.name hr h.semicolon), he]
    rfl
  have hempty := h.emptyDeclarationEnd_eq
  refine ⟨e, ?_⟩
  obtain ⟨p, ps, rfl, hp, hps⟩ := h.reads.exists_cons
  cases ps with
  | nil => exact itemReading_of_declared hp h.first h.name hdeclared hempty top
  | cons x ps =>
    obtain ⟨v, hv⟩ := Piece.exists_word hps List.mem_cons_self
    exact itemReading_of_declared hp h.first hv hdeclared hempty top

end TypeText.Heads

/-- A signature. No word of it that the language has a use for stands where that use would be read. -/
structure Signature where
  head : TypedName
  parameters : List TypedName
  call : head.name ∉ Word.callModifiers
  assembly : head.name ∉ Word.assembly
  first : head.type.first ∉ itemWords

namespace Signature

open Scan

variable (d : Signature)

def text : String := d.head.text ++ "(" ++ Text.join ", " (d.parameters.map TypedName.text) ++ ");"

lemma scans_text {s : State} (hb : s.blank = "") :
    ∃ s' ts n r q rank xs, Scans s d.text.toList (ts ++ [n, r, q]) s' [] ∧
      d.head.type.Heads d.head.name ts n r q rank (.ofEntries xs) ∧
      xs.map Prod.snd = d.parameters.map TypedName.entry := by
  have hnil : ∀ c ∈ "".toList, isSpace c = true := isSpace_of_lead (by decide)
  have hend : ([] : List Char).head? ≠ some '=' := by simp
  have hmark : Filled [⟨"", ";", .mark⟩] [] := ⟨.blank hnil, takes_mark (by decide) hend, trivial⟩
  generalize hsemi : charsOf [⟨"", ";", .mark⟩] = semicolon at *
  have hclose : Apart (')' :: (semicolon ++ [])) := apart_of_head (c := ')') (by decide) rfl
  have hopen : Apart ('(' :: charsOf (commas TypedName.tokens "" d.parameters) ++ [')'] ++ (semicolon ++ [])) :=
    apart_of_head (c := '(') (by decide) rfl
  obtain ⟨s₁, us, hhead, hus, -⟩ := scans_filled (TypedName.filled_tokens (a := d.head) (.blank hnil) hopen) hb
  obtain ⟨s₂, ps, hin, hps, -⟩ := scans_filled (s := s₁.enter .round ['('])
    (filled_commas TypedName.charsOf_tokens (fun _ _ _ hl => TypedName.filled_tokens (.blank hl)) hnil hclose
      d.parameters) rfl
  obtain ⟨r, s₃, hround, htoken, hb₃⟩ := scans_round hin
  obtain ⟨s₄, _, hsemicolon, hqs, -⟩ := scans_filled hmark hb₃
  obtain ⟨q, _, hq, ⟨⟩, rfl⟩ := List.forall₂_cons_left_iff.mp hqs
  rw [hsemi] at hsemicolon
  have h := (hhead.trans hround).trans hsemicolon
  obtain ⟨ts, n, rfl, hts, hn⟩ := TypedName.shows_tokens hus
  have hpieces : ts ++ [n] ++ [r] ++ [q] = ts ++ [n, r, q] := by simp
  have hlist : charsOf (commas TypedName.tokens "" d.parameters) =
      (Text.join ", " (d.parameters.map TypedName.text)).toList := by
    cases d.parameters with
    | nil => rfl
    | cons a as => exact charsOf_commas TypedName.charsOf_tokens "" a as
  have htext : charsOf (d.head.tokens "") ++ ('(' :: charsOf (commas TypedName.tokens "" d.parameters) ++ [')']) ++
      semicolon = d.text.toList := by
    rw [TypedName.charsOf_tokens, hlist, ← hsemi, text]
    simp [charsOf]
  rw [hpieces, htext] at h
  obtain ⟨rank, xs, hxs, hentries, hdeclarator⟩ := TypedName.parameterList_commas hps
  exact ⟨s₄, ts, n, r, q, rank, xs, h, ⟨hts, hn, d.head.names, d.call, d.assembly, d.first,
    ⟨_, htoken, hxs, hdeclarator⟩, isMark_of_shows hq ";"⟩, hentries⟩

lemma head?_text : ∀ c ∈ d.text.toList.head?, c.toNat ≠ 0xFEFF := by
  have hmark : (Text.isXidStart (Char.ofNat 0xFEFF) || Char.ofNat 0xFEFF == '_' ||
      Char.ofNat 0xFEFF == '$') = false ∧ Char.ofNat 0xFEFF ≠ '\\' := by decide +kernel
  have hid := d.head.type.isIdentifier List.mem_cons_self
  intro c hc hm
  cases hcs : d.head.type.first.toList with
  | nil => exact hid.1 hcs
  | cons x cs =>
    obtain rfl : x = c := by simpa [text, TypedName.text, TypeText.text, String.join_cons, hcs] using hc
    rw [← hm, Char.ofNat_toNat] at hmark
    have hlen := hid.2
    rw [hcs, identifier_eq_zero hmark.1 hmark.2] at hlen
    simp at hlen

lemma isVoid_entries {xs : List (Extent × Specifier × Declarator)}
    (h : xs.map Prod.snd = d.parameters.map TypedName.entry) : (Parameters.ofEntries xs).isVoid [] = false := by
  cases xs with
  | nil => rfl
  | cons x xs =>
    obtain ⟨a, as, -, ha, -⟩ := List.map_eq_cons_iff.mp h.symm
    obtain ⟨e, _⟩ := x
    obtain rfl := ha
    rfl

lemma read_text : ∃ u xs e, SourceUnit.read d.text = .ok u ∧
    xs.map Prod.snd = d.parameters.map TypedName.entry ∧
    originsOf [] u.items = [(.prototype, signatureNode (d.head.type.specifier.type []) d.head.name xs e)] := by
  obtain ⟨s, ts, n, r, q, rank, xs, hscan, hheads, hxs⟩ := d.scans_text (s := .initial .start) rfl
  obtain ⟨extent, htext⟩ := text_of_scans hscan d.head?_text
  obtain ⟨e, he⟩ := hheads.itemReading_eq true
  have hitems := itemsReading_of_item (by simp) he
  have hname : d.head.name ≠ "" := by
    intro hn
    exact d.head.isIdentifier.1 (by simp [hn])
  refine ⟨⟨[.declaration ⟨e, d.head.type.specifier, [.function (.ofEntries xs) (.name d.head.name)]⟩], extent⟩,
    xs, e, ?_, hxs, originsOf_signature (d.isVoid_entries hxs) hname d.head.type.specifier e⟩
  rw [SourceUnit.read, htext]
  simp only [hitems]
  rfl

end Signature

end Quadrature.C
