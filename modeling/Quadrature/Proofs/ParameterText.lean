import Quadrature.FunctionDeclaration
import Quadrature.Proofs.Prototypes
import Quadrature.Proofs.Written

/-! The lexemes of a signature: what the scanner takes from a type, a name and parameters, and what the pieces
declare. -/

namespace Quadrature.C.Scan

open Lexeme

variable {ws ws' : List Written} {ps : List Piece} {rest : List Char} {lead t : String}

lemma charsOf_append (ws ws' : List Written) : charsOf (ws ++ ws') = charsOf ws ++ charsOf ws' :=
  List.flatMap_append

lemma charsOf_cons (w : Written) (ws : List Written) :
    charsOf (w :: ws) = w.lead.toList ++ w.text.toList ++ charsOf ws := rfl

lemma legible_append (h : Legible ws (charsOf ws' ++ rest)) (h' : Legible ws' rest) :
    Legible (ws ++ ws') rest := by
  induction ws with
  | nil => exact h'
  | cons w ws ih =>
    obtain ⟨hlead, htake, hws⟩ := h
    have he : charsOf (ws ++ ws') ++ rest = charsOf ws ++ (charsOf ws' ++ rest) := by
      rw [charsOf_append, List.append_assoc]
    exact ⟨hlead, he ▸ htake, ih hws⟩

lemma filled_append (h : Filled ws (charsOf ws' ++ rest)) (h' : Filled ws' rest) : Filled (ws ++ ws') rest := by
  induction ws with
  | nil => exact h'
  | cons w ws ih =>
    obtain ⟨hlead, htake, hws⟩ := h
    have he : charsOf (ws ++ ws') ++ rest = charsOf ws ++ (charsOf ws' ++ rest) := by
      rw [charsOf_append, List.append_assoc]
    exact ⟨hlead, he ▸ htake, ih hws⟩

lemma forall₂_append_left {α β : Type} {R : α → β → Prop} {xs ys : List α} {zs : List β}
    (h : List.Forall₂ R (xs ++ ys) zs) :
    ∃ us vs, zs = us ++ vs ∧ List.Forall₂ R xs us ∧ List.Forall₂ R ys vs := by
  refine ⟨zs.take xs.length, zs.drop xs.length, (List.take_append_drop _ _).symm, ?_, ?_⟩
  · exact (List.forall₂_take_append _ _ _ h.flip).flip
  · exact (List.forall₂_drop_append _ _ _ h.flip).flip

lemma apart_of_head {c : Char} {cs : List Char} (hc : c ∈ [' ', ',', '(', ')', ';'])
    (h : cs.head? = some c) : Apart cs := by
  have hclass : ∀ c ∈ [' ', ',', '(', ')', ';'],
      (Text.isXidContinue c || c == '$') = false ∧ c ≠ '\\' ∧ c ≠ '"' ∧ c ≠ '\'' :=
    Text.forall_mem_of_all (by decide)
  obtain ⟨hx, hb, hq, hq'⟩ := hclass c hc
  obtain ⟨cs, rfl⟩ := List.head?_eq_some_iff.mp h
  exact ⟨identifierRest_eq_zero hx hb cs, by simpa using hq, by simpa using hq'⟩

lemma isSpace_of_lead (h : lead ∈ ["", " ", "\n"]) : ∀ c ∈ lead.toList, isSpace c = true := by
  have hall : ∀ l ∈ ["", " ", "\n"], l.toList.all isSpace = true := by decide
  exact List.all_eq_true.mp (hall lead h)

lemma isSpace_of_single : ∀ c ∈ " ".toList, isSpace c = true := isSpace_of_lead (by decide)

def spaced (lead : String) : List String → List Written
  | [] => []
  | w :: ws => ⟨lead, w, .word⟩ :: spaced " " ws

lemma legible_spaced {words : List String} (hw : ∀ w ∈ words, IsIdentifier w.toList)
    (hl : ∀ c ∈ lead.toList, isSpace c = true) (hr : Apart rest) : Legible (spaced lead words) rest := by
  induction words generalizing lead with
  | nil => trivial
  | cons w words ih =>
    refine ⟨hl, takes_word (hw w List.mem_cons_self) ?_, ih (fun v hv => hw v (List.mem_cons_of_mem w hv)) ?_⟩
    · cases words with
      | nil => exact hr
      | cons v words => exact apart_of_head (c := ' ') (by decide) (by simp [charsOf, spaced])
    · exact isSpace_of_single

lemma word?_of_shows {p : Piece} {w : String} (h : Shows ⟨lead, w, .word⟩ p) : p.word? = some w := by
  rw [Piece.word?, h.token, h.text]

lemma words_of_shows {words : List String} (h : List.Forall₂ Shows (spaced lead words) ps) :
    ps.map Piece.word? = words.map some := by
  induction words generalizing lead ps with
  | nil =>
    cases h
    rfl
  | cons w words ih =>
    obtain ⟨p, ps, hp, hps, rfl⟩ := List.forall₂_cons_left_iff.mp h
    rw [List.map_cons, List.map_cons, word?_of_shows hp, ih hps]

lemma join_of_shows (h : List.Forall₂ Shows ws ps) :
    String.join (ps.map fun q => q.lead ++ q.text) = String.ofList (charsOf ws) := by
  induction h with
  | nil => rfl
  | cons hp _ ih =>
    rw [List.map_cons, String.join_cons, ih, hp.lead, hp.text, charsOf_cons]
    simp [String.append_assoc]

lemma plainTypes_spaced : ∀ t ∈ plainTypes, (∀ w ∈ Text.words t, IsIdentifier w.toList) ∧
    charsOf (spaced "" (Text.words t)) = t.toList := by
  decide +kernel

lemma charsOf_type (ht : t ∈ plainTypes) (lead : String) :
    charsOf (spaced lead (Text.words t)) = lead.toList ++ t.toList := by
  have hc := (plainTypes_spaced t ht).2
  rw [(plainTypes_words t ht).1, spaced, charsOf_cons] at hc ⊢
  rw [← hc]
  simp

lemma spells_of_shows (ht : t ∈ plainTypes) (h : List.Forall₂ Shows (spaced lead (Text.words t)) ps) :
    Spells t ps := by
  refine ⟨words_of_shows h, ?_⟩
  have hc := (plainTypes_spaced t ht).2
  rw [(plainTypes_words t ht).1] at h hc
  obtain ⟨p, ps, hp, hps, rfl⟩ := List.forall₂_cons_left_iff.mp h
  rw [Piece.source, join_of_shows hps, hp.text, ← String.toList_inj, ← hc]
  simp [spaced, charsOf_cons]

lemma plainTypes_call : ∀ t ∈ plainTypes, headWord t ∉ Word.callModifiers := by
  decide +kernel

structure Declares (a : Argument) : Prop where
  type : a.type ∈ plainTypes
  name : IsIdentifier a.name.toList
  declarable : Declarable a.type a.name

lemma Declares.name_ne {a : Argument} (h : Declares a) : a.name ≠ "" := by
  intro he
  exact h.name.1 (by simp [he])

lemma noComma_append {qs : List Piece} (hp : NoComma ps) (hq : NoComma qs) : NoComma (ps ++ qs) :=
  fun p h => (List.mem_append.mp h).elim (hp p) (hq p)

lemma noComma_of_words {words : List String} (h : ps.map Piece.word? = words.map some) : NoComma ps := by
  intro p hp
  obtain ⟨w, hw⟩ := Piece.exists_word h hp
  exact Piece.isMark_of_word hw ","

lemma isEllipsis_of_word {p : Piece} {w : String} (h : p.word? = some w) :
    isEllipsis (p :: ps) = false := by
  cases ps with
  | nil => exact Piece.isMark_of_word h "..."
  | cons q ps => rfl

lemma isMark_of_shows {p : Piece} {m : String} (h : Shows ⟨lead, m, .mark⟩ p) (k : String) :
    p.isMark k = (m == k) := by
  rw [Piece.isMark, h.token, h.text]

lemma noComma_of_shows (hc : ∀ v ∈ ws, v.text ≠ ",") (h : List.Forall₂ Shows ws ps) : NoComma ps := by
  induction h with
  | nil => simp [NoComma]
  | @cons v p ws ps hp _ ih =>
    obtain ⟨hv, hws⟩ := List.forall_mem_cons.mp hc
    refine List.forall_mem_cons.mpr ⟨?_, ih hws⟩
    rw [Piece.isMark, hp.token, hp.text]
    cases v.sort <;> simp [hv]

lemma head?_of_shows {p : Piece} (h : List.Forall₂ Shows ws ps) (hp : p ∈ ps.head?) :
    p.round? = none ∧ p.square? = none := by
  cases h with
  | nil => cases hp
  | @cons v q _ _ hq _ =>
    obtain rfl := Option.some.inj hp
    rw [Piece.round?, Piece.square?, hq.token]
    exact ⟨rfl, rfl⟩

def commas {α : Type} (tokens : String → α → List Written) (lead : String) : List α → List Written
  | [] => []
  | [a] => tokens lead a
  | a :: as => tokens lead a ++ ⟨"", ",", .mark⟩ :: commas tokens " " as

section Commas

variable {α : Type} {tokens : String → α → List Written} {text : α → String}
  {entry : α → Specifier × Declarator}

lemma charsOf_commas (ht : ∀ lead a, charsOf (tokens lead a) = lead.toList ++ (text a).toList) (lead : String)
    (a : α) (as : List α) :
    charsOf (commas tokens lead (a :: as)) = lead.toList ++ (Text.join ", " ((a :: as).map text)).toList := by
  induction as generalizing lead a with
  | nil => exact ht lead a
  | cons b as ih =>
    have hj : Text.join ", " ((a :: b :: as).map text) =
        text a ++ ", " ++ Text.join ", " ((b :: as).map text) := rfl
    rw [commas, charsOf_append, charsOf_cons, ht, ih, hj]
    · simp
    · simp

lemma filled_commas (ht : ∀ lead a, charsOf (tokens lead a) = lead.toList ++ (text a).toList)
    (hf : ∀ lead a rest, (∀ c ∈ lead.toList, isSpace c = true) → Apart rest → Filled (tokens lead a) rest)
    (hl : ∀ c ∈ lead.toList, isSpace c = true) (hr : Apart rest) (as : List α) :
    Filled (commas tokens lead as) rest := by
  induction as generalizing lead with
  | nil => trivial
  | cons a as ih =>
    cases as with
    | nil => exact hf lead a rest hl hr
    | cons b as =>
      refine filled_append (hf lead a _ hl (apart_of_head (c := ',') (by decide) rfl))
        ⟨.blank (isSpace_of_lead (by decide)), takes_mark (by decide) ?_, ih isSpace_of_single⟩
      rw [charsOf_commas ht]
      simp

/-- `R` is what is known of the rank of each parameter, and so of their sum. -/
lemma lists_commas {R : Int → Prop} (hR : ∀ m n, R m → R n → R (m + n))
    (hread : ∀ lead a ps, List.Forall₂ Shows (tokens lead a) ps →
      NoComma ps ∧ isEllipsis ps = false ∧ ∃ rank, R rank ∧ parameterReading ps = some ⟨rank, entry a⟩)
    {a : α} {as : List α} (h : List.Forall₂ Shows (commas tokens lead (a :: as)) ps) :
    ∃ rank, R rank ∧ Lists ps rank ((a :: as).map entry) := by
  induction as generalizing lead a ps with
  | nil =>
    obtain ⟨hc, he, rank, hrank, hr⟩ := hread _ _ _ h
    exact ⟨rank, hrank, .one hc he hr⟩
  | cons b as ih =>
    obtain ⟨qs, _, rfl, hqs, hmore⟩ := forall₂_append_left h
    obtain ⟨m, rs, hm, hrs, rfl⟩ := List.forall₂_cons_left_iff.mp hmore
    obtain ⟨hc, he, rank, hrank, hr⟩ := hread _ _ _ hqs
    obtain ⟨rank', hrank', hlist⟩ := ih hrs
    exact ⟨rank + rank', hR _ _ hrank hrank', .more hc he hr (isMark_of_shows hm ",") hlist⟩

end Commas

structure Parameter where
  type : String
  tail : List Written
  declarator : Declarator
  plain : type ∈ plainTypes
  legible : ∀ {rest}, Apart rest → Legible tail rest ∧ Apart (charsOf tail ++ rest)
  noComma : ∀ v ∈ tail, v.text ≠ ","
  reading : ∀ {ts ns}, Spells type ts → List.Forall₂ Shows tail ns →
    ∃ rank, 0 ≤ rank ∧ parameterReading (ts ++ ns) = some ⟨rank, plainSpecifier type, declarator⟩

namespace Parameter

variable {p : Parameter} {params : List Parameter}

def text (p : Parameter) : String := p.type ++ String.ofList (charsOf p.tail)

def tokens (lead : String) (p : Parameter) : List Written := spaced lead (Text.words p.type) ++ p.tail

def entry (p : Parameter) : Specifier × Declarator := (plainSpecifier p.type, p.declarator)

lemma charsOf_tokens (lead : String) (p : Parameter) :
    charsOf (p.tokens lead) = lead.toList ++ p.text.toList := by
  rw [tokens, charsOf_append, charsOf_type p.plain, text]
  simp

lemma legible_tokens (hl : ∀ c ∈ lead.toList, isSpace c = true) (hr : Apart rest) :
    Legible (p.tokens lead) rest := by
  obtain ⟨hlegible, hapart⟩ := p.legible hr
  exact legible_append (legible_spaced (plainTypes_spaced _ p.plain).1 hl hapart) hlegible

lemma shows_tokens (h : List.Forall₂ Shows (p.tokens lead) ps) :
    ∃ ts ns, ps = ts ++ ns ∧ Spells p.type ts ∧ List.Forall₂ Shows p.tail ns := by
  obtain ⟨ts, ns, rfl, hts, hns⟩ := forall₂_append_left h
  exact ⟨ts, ns, rfl, spells_of_shows p.plain hts, hns⟩

lemma reading_tokens (h : List.Forall₂ Shows (p.tokens lead) ps) :
    NoComma ps ∧ isEllipsis ps = false ∧ ∃ rank, 0 ≤ rank ∧ parameterReading ps = some ⟨rank, p.entry⟩ := by
  obtain ⟨ts, ns, rfl, hts, hns⟩ := shows_tokens h
  refine ⟨noComma_append (noComma_of_words hts.words) (noComma_of_shows p.noComma hns), ?_,
    p.reading hts hns⟩
  obtain ⟨q, qs, rfl, hq, -⟩ := hts.exists_cons p.plain
  exact isEllipsis_of_word hq

def unnamed (t : String) (ht : t ∈ plainTypes) : Parameter where
  type := t
  tail := []
  declarator := .absent
  plain := ht
  legible hr := ⟨trivial, hr⟩
  noComma := by simp
  reading hts hns := by
    cases hns
    rw [List.append_nil]
    exact ⟨0, Int.le_refl 0, parameterReading_type ht hts⟩

def named (a : Argument) (h : Declares a) : Parameter where
  type := a.type
  tail := [⟨" ", a.name, .word⟩]
  declarator := .name a.name
  plain := h.type
  legible hr := by
    exact ⟨⟨isSpace_of_single, takes_word h.name hr, trivial⟩,
      apart_of_head (c := ' ') (by decide) (by simp [charsOf])⟩
  noComma := by
    have hne : a.name ≠ "," := by
      intro he
      have := h.name
      rw [he] at this
      exact absurd this (by decide +kernel)
    simpa using hne
  reading hts hns := by
    obtain ⟨n, _, hn, ⟨⟩, rfl⟩ := List.forall₂_cons_left_iff.mp hns
    exact ⟨0, Int.le_refl 0, parameterReading_name h.type hts (word?_of_shows hn) h.declarable⟩

lemma text_named {a : Argument} (h : Declares a) : (named a h).text = a.written := by
  rw [Argument.written, if_neg h.name_ne, text, named, ← String.toList_inj]
  simp [charsOf]

end Parameter

structure Readable (a : Argument) : Prop where
  type : a.type ∈ plainTypes
  name : a.name ≠ "" → IsIdentifier a.name.toList ∧ Declarable a.type a.name

lemma Declares.readable {a : Argument} (h : Declares a) : Readable a := ⟨h.type, fun _ => ⟨h.name, h.declarable⟩⟩

def entry (a : Argument) : Specifier × Declarator :=
  (plainSpecifier a.type, if a.name = "" then .absent else .name a.name)

lemma Readable.exists_parameter {a : Argument} (h : Readable a) :
    ∃ p : Parameter, p.text = a.written ∧ p.entry = entry a := by
  by_cases hn : a.name = ""
  · refine ⟨.unnamed a.type h.type, ?_, ?_⟩
    · rw [Argument.written, if_pos hn]
      exact String.append_empty
    · rw [entry, if_pos hn]
      rfl
  · obtain ⟨hi, hd⟩ := h.name hn
    refine ⟨.named a ⟨h.type, hi, hd⟩, Parameter.text_named _, ?_⟩
    rw [entry, if_neg hn]
    rfl

lemma exists_parameters {as : List Argument} (h : ∀ a ∈ as, Readable a) :
    ∃ params : List Parameter, params.map Parameter.text = as.map Argument.written ∧
      params.map Parameter.entry = as.map entry := by
  induction as with
  | nil => exact ⟨[], rfl, rfl⟩
  | cons a as ih =>
    obtain ⟨ha, has⟩ := List.forall_mem_cons.mp h
    obtain ⟨p, htext, hentry⟩ := ha.exists_parameter
    obtain ⟨params, htexts, hentries⟩ := ih has
    exact ⟨p :: params, congrArg₂ List.cons htext htexts, congrArg₂ List.cons hentry hentries⟩

namespace Parameter

variable {p : Parameter} {params : List Parameter}

def list (lead : String) : List Parameter → List Written
  | [] => []
  | [p] => p.tokens lead
  | p :: params => p.tokens lead ++ ⟨"", ",", .mark⟩ :: list " " params

lemma list_eq (lead : String) (params : List Parameter) : list lead params = commas tokens lead params := by
  induction params generalizing lead with
  | nil => rfl
  | cons p params ih =>
    cases params with
    | nil => rfl
    | cons q params =>
      rw [list, commas, ih " "]
      · simp
      · simp

lemma charsOf_list (lead : String) (p : Parameter) (params : List Parameter) :
    charsOf (list lead (p :: params)) =
      lead.toList ++ (Text.join ", " ((p :: params).map text)).toList := by
  rw [list_eq]
  exact charsOf_commas charsOf_tokens lead p params

lemma filled_list (hl : ∀ c ∈ lead.toList, isSpace c = true) (hr : Apart rest) (params : List Parameter) :
    Filled (list lead params) rest := by
  rw [list_eq]
  exact filled_commas charsOf_tokens (fun _ _ _ hl hr => (legible_tokens hl hr).filled) hl hr params

lemma lists_list (h : List.Forall₂ Shows (list lead (p :: params)) ps) :
    ∃ rank, 0 ≤ rank ∧ Lists ps rank ((p :: params).map entry) := by
  rw [list_eq] at h
  exact lists_commas (R := fun rank => 0 ≤ rank) (fun _ _ => Int.add_nonneg)
    (fun _ _ _ hps => reading_tokens hps) h

lemma list_cons (lead : String) (p : Parameter) (params : List Parameter) :
    ∃ more, list lead (p :: params) = ⟨lead, headWord p.type, .word⟩ :: more := by
  have hspaced := congrArg (spaced lead) (plainTypes_words p.type p.plain).1
  cases params with
  | nil => exact ⟨_, congrArg (· ++ p.tail) hspaced⟩
  | cons q params => exact ⟨_, congrArg (· ++ p.tail ++ ⟨"", ",", .mark⟩ :: list " " (q :: params)) hspaced⟩

lemma parameterList_list (h : List.Forall₂ Shows (list lead params) ps) :
    ∃ rank xs, C.parameterList ps = some ⟨rank, .ofEntries xs⟩ ∧ xs.map Prod.snd = params.map entry ∧
      ∀ d ∈ enclosedDeclarator false ps, d.rank ≤ rank := by
  cases params with
  | nil =>
    cases h
    exact ⟨0, [], rfl, rfl, by simp [enclosedDeclarator]⟩
  | cons p params =>
    obtain ⟨rank, hrank, hlist⟩ := lists_list h
    obtain ⟨more, hmore⟩ := list_cons lead p params
    rw [hmore] at h
    obtain ⟨q, qs, hq, hqs, rfl⟩ := List.forall₂_cons_left_iff.mp h
    obtain ⟨xs, hxs, hentries⟩ := hlist.parameterList (by simp)
    refine ⟨rank, xs, hxs, hentries, fun d hd => ?_⟩
    rw [enclosedDeclarator_word (word?_of_shows hq) (plainTypes_call _ p.plain)
      (fun _ => head?_of_shows hqs) d hd]
    exact hrank

end Parameter

lemma scans_signature {s : State} {w : String} (hb : s.blank = "") (hf : Declares ⟨t, w⟩)
    (hcall : w ∉ Word.callModifiers) (hl : ∀ c ∈ lead.toList, isSpace c = true)
    (hr : rest.head? ≠ some '=') (params : List Parameter) :
    ∃ s' ts n r q rank xs,
      Scans s (lead.toList ++
        (t ++ " " ++ w ++ "(" ++ Text.join ", " (params.map Parameter.text) ++ ")").toList ++ [';'])
        (ts ++ [n, r, q]) s' rest ∧
      Prototype t w ts n r q rank (.ofEntries xs) ∧ xs.map Prod.snd = params.map Parameter.entry := by
  have hnil : ∀ c ∈ "".toList, isSpace c = true := isSpace_of_lead (by decide)
  -- from the end on, since each part is read before what follows it
  have hmark : Legible [⟨"", ";", .mark⟩] rest := ⟨hnil, takes_mark (by decide) hr, trivial⟩
  generalize hsemi : charsOf [⟨"", ";", .mark⟩] = semicolon at *
  have hclose : Apart (')' :: (semicolon ++ rest)) := apart_of_head (c := ')') (by decide) rfl
  have hopen : Apart ('(' :: charsOf (Parameter.list "" params) ++ [')'] ++ (semicolon ++ rest)) :=
    apart_of_head (c := '(') (by decide) rfl
  obtain ⟨s₁, us, hhead, hus, -⟩ := scans_written (Parameter.legible_tokens (p := .named _ hf) hl hopen) hb
  obtain ⟨s₂, ps, hin, hps, -⟩ := scans_filled (s := s₁.enter .round ['('])
    (Parameter.filled_list hnil hclose params) rfl
  obtain ⟨r, s₃, hround, htoken, hb₃⟩ := scans_round hin
  obtain ⟨s₄, _, hsemicolon, hqs, -⟩ := scans_written hmark hb₃
  obtain ⟨q, _, hq, ⟨⟩, rfl⟩ := List.forall₂_cons_left_iff.mp hqs
  rw [hsemi] at hsemicolon
  have h := (hhead.trans hround).trans hsemicolon
  obtain ⟨ts, _, rfl, hspells, hns⟩ := Parameter.shows_tokens hus
  obtain ⟨n, _, hn, ⟨⟩, rfl⟩ := List.forall₂_cons_left_iff.mp hns
  have hpieces : ts ++ [n] ++ [r] ++ [q] = ts ++ [n, r, q] := by simp
  have hlist : charsOf (Parameter.list "" params) = (Text.join ", " (params.map Parameter.text)).toList := by
    cases params with
    | nil => rfl
    | cons p params => exact Parameter.charsOf_list "" p params
  have htext : charsOf ((Parameter.named _ hf).tokens lead) ++
      ('(' :: charsOf (Parameter.list "" params) ++ [')']) ++ semicolon =
      lead.toList ++
        (t ++ " " ++ w ++ "(" ++ Text.join ", " (params.map Parameter.text) ++ ")").toList ++ [';'] := by
    have hw : (⟨t, w⟩ : Argument).written = t ++ " " ++ w := if_neg hf.name_ne
    rw [Parameter.charsOf_tokens, Parameter.text_named, hlist, ← hsemi, hw]
    simp [charsOf]
  rw [hpieces, htext] at h
  obtain ⟨rank, xs, hxs, hentries, hdeclarator⟩ := Parameter.parameterList_list hps
  exact ⟨s₄, ts, n, r, q, rank, xs, h, ⟨hf.type, hspells, word?_of_shows hn, hf.declarable, hcall,
    ⟨_, htoken, hxs, hdeclarator⟩, isMark_of_shows hq ";"⟩, hentries⟩

end Quadrature.C.Scan

namespace Quadrature

open C

lemma plainTypes_chars : ∀ t ∈ plainTypes, '\n' ∉ t.toList ∧
    (t.toList.head?.any fun c => !Text.isBlank c && c != '#') = true := by
  decide +kernel

lemma newline_not_mem_join {xs : List String} (h : ∀ x ∈ xs, '\n' ∉ x.toList) :
    '\n' ∉ (Text.join ", " xs).toList := by
  induction xs with
  | nil => decide
  | cons x xs ih =>
    obtain ⟨hx, hxs⟩ := List.forall_mem_cons.mp h
    cases xs with
    | nil => exact hx
    | cons y ys =>
      rw [Text.join]
      · simpa using ⟨hx, ih hxs⟩
      · simp

end Quadrature
