import Quadrature.Proofs.LoweredOutline
import Quadrature.Proofs.LoweredScan
import Quadrature.Proofs.ReadBack
import Quadrature.Proofs.Signatures

/-! A header inside of a guard for C++ compilers. The guard is blanked but for its directives, each half
of it is an empty conditional to the reader, and what stands between them is read as it is read alone,
three lines further down. -/

namespace Quadrature.C.Guard

open Text Lexeme

variable {s : State} {a b : List Char} {source : String}

/-! ## Masking -/

def half (inside : List Char) : List Char :=
  Scan.opening "ifdef" "__cplusplus".toList ++ '\n' :: inside ++ Scan.closing ++ ['\n']

lemma masks_half (bs : List Branch) (h : IsText b) :
    Masks ⟨bs, false⟩ (half (b ++ ['\n'])) (half (blank (b ++ ['\n']))) ⟨bs, false⟩ := by
  have hopen := masks_directive bs (b := "#ifdef __cplusplus".toList) (by simp) rfl (by simp)
  have hline := masks_blanked (⟨true, true⟩ :: bs) h rfl
  have hclose : Masks ⟨⟨true, true⟩ :: bs, false⟩ ("#endif".toList ++ ['\n']) ("#endif".toList ++ ['\n'])
      ⟨bs, false⟩ := masks_directive _ (by simp) rfl (by simp)
  simpa [half, Scan.opening, Scan.closing] using hopen.trans (hline.trans hclose)

lemma mask_line (s : State) (b : List Char) :
    ∃ m, s.mask (b ++ ['\n']) = m ++ ['\n'] ∧ (m = b ∨ '\\' ∉ m) := by
  have hkept : ∃ m, b ++ ['\n'] = m ++ ['\n'] ∧ (m = b ∨ '\\' ∉ m) := ⟨b, rfl, .inl rfl⟩
  rw [State.mask]
  split_ifs
  · exact hkept
  · refine ⟨List.replicate (byteLength (body (b ++ ['\n']))) ' ' ++ terminator b, ?_, .inr fun hm => ?_⟩
    · rw [blank, terminator_newline, List.append_assoc]
    · rcases List.mem_append.mp hm with hm | hm
      · exact absurd (List.eq_of_mem_replicate hm) (by decide)
      · exact absurd (mem_terminator b hm) (by decide)
  · exact hkept

lemma getLast?_maskLines (h : Complete a) (s : State) :
    ∀ c ∈ (maskLines s (lines a)).flatten.getLast?, c = '\n' := by
  induction h generalizing s with
  | nil => simp [lines, maskLines]
  | @line b cs hb _ ih =>
    intro c hc
    obtain ⟨m, hm, -⟩ := mask_line s b
    rw [lines_append_newline _ _ hb, maskLines, List.flatten_cons, hm, List.getLast?_append] at hc
    cases hl : (maskLines (s.next (b ++ ['\n'])) (lines cs)).flatten.getLast? with
    | none => simpa [hl, eq_comm] using hc
    | some d => exact ih (s.next (b ++ ['\n'])) c (by simpa [hl] using hc)

lemma body_return (b : List Char) : body (b ++ ['\r']) = body b :=
  List.rdropWhile_concat_pos _ _ _ rfl

lemma body_of_backslash (h : b.getLast? = some '\\') : body b = b := by
  obtain ⟨front, rfl⟩ := List.getLast?_eq_some_iff.mp h
  exact List.rdropWhile_concat_neg _ _ _ (by decide)

lemma continued_next (s : State) (h : (body a).getLast? ≠ some '\\') : (s.next a).continued = false := by
  by_cases hd : s.isDirective a = true
  · rw [State.next, if_pos hd]
    exact beq_eq_false_iff_ne.mpr h
  · rw [State.next, if_neg hd]
    rw [State.isDirective, Bool.or_eq_true, not_or] at hd
    exact Bool.eq_false_iff.mpr hd.1

lemma backslash_of_masked {front m x : List Char} (hfront : ∀ c ∈ front.getLast?, c = '\n')
    (hm : m = b ∨ '\\' ∉ m) (hx : x <+: m) (h : (front ++ x).getLast? = some '\\') :
    x.getLast? = some '\\' ∧ m = b := by
  rw [List.getLast?_append] at h
  cases hl : x.getLast? with
  | none =>
    rw [hl, Option.none_or] at h
    exact absurd (hfront _ h) (by decide)
  | some d =>
    rw [hl] at h
    obtain rfl := Option.some.inj h
    exact ⟨rfl, hm.resolve_right fun hn => hn (hx.mem (List.mem_of_getLast? hl))⟩

lemma ended_masked (ha : Complete a) (hb : (body (b ++ ['\n'])).getLast? ≠ some '\\') (s s' : State) :
    Ended ((maskLines s (lines a)).flatten ++ s'.mask (b ++ ['\n'])) := by
  have hlast := getLast?_maskLines ha s
  obtain ⟨m, hm, hmb⟩ := mask_line s' b
  generalize (maskLines s (lines a)).flatten = front at hlast
  rw [hm, ← List.append_assoc]
  refine ⟨?_, ?_, ?_⟩
  · intro c hc
    simpa [eq_comm] using hc
  · rintro ⟨x, hx⟩
    have he : x ++ ['\\'] ++ ['\n'] = front ++ m ++ ['\n'] := by rw [← hx, List.append_assoc]; rfl
    replace he := List.append_cancel_right he
    obtain ⟨hl, rfl⟩ := backslash_of_masked hlast hmb (List.prefix_refl m) (by rw [← he]; simp)
    rw [body_newline, body_of_backslash hl] at hb
    exact hb hl
  · rintro ⟨x, hx⟩
    have he : x ++ ['\\', '\r'] ++ ['\n'] = front ++ m ++ ['\n'] := by rw [← hx, List.append_assoc]; rfl
    replace he := List.append_cancel_right he
    rcases List.eq_nil_or_concat' m with rfl | ⟨m', d, rfl⟩
    · rw [List.append_nil] at he
      exact absurd (hlast '\r' (by rw [← he]; simp)) (by decide)
    · have he' : x ++ ['\\'] ++ ['\r'] = front ++ m' ++ [d] := by simpa using he
      obtain ⟨hfront, hd⟩ := List.append_inj' he' rfl
      obtain rfl : '\r' = d := by simpa using hd
      obtain ⟨hl, rfl⟩ := backslash_of_masked hlast hmb (List.prefix_append m' ['\r']) (by rw [← hfront]; simp)
      rw [body_newline, body_return, body_of_backslash hl] at hb
      exact hb hl

lemma exists_last_line (h : source.toList.getLast? = some '\n') :
    ∃ a b, source.toList = a ++ (b ++ ['\n']) ∧ Complete a ∧ '\n' ∉ b := by
  obtain ⟨front, hf⟩ := List.getLast?_eq_some_iff.mp h
  obtain ⟨a, b, rfl, ha, hb⟩ := exists_complete_append front
  exact ⟨a, b, by rw [hf, List.append_assoc], ha, hb⟩

lemma head?_mask (source : String) : (mask source).toList.head? = source.toList.head? := by
  have hm : ∀ line, State.initial.mask line = line := by
    intro line
    simp [State.mask, State.excludes, State.initial]
  rw [mask, String.toList_ofList]
  cases hs : source.toList with
  | nil => rfl
  | cons c cs =>
    rw [lines]
    split_ifs
    · simp [maskLines, hm]
    · cases lines cs <;> simp [maskLines, hm]

def linkageGuarded (source : String) : String :=
  "#ifdef __cplusplus\nextern \"C\" \x7b\n#endif\n" ++ source ++ "#ifdef __cplusplus\n\x7d\n#endif\n"

lemma toList_linkageGuarded (source : String) :
    (linkageGuarded source).toList =
      half ("extern \"C\" \x7b".toList ++ ['\n']) ++ (source.toList ++ half ("\x7d".toList ++ ['\n'])) := by
  delta linkageGuarded
  rw [String.toList_append, String.toList_append, List.append_assoc]
  rfl

lemma mask_linkageGuarded (hend : source.toList.getLast? = some '\n')
    (hlast : ∀ line ∈ (lines source.toList).getLast?, (body line).getLast? ≠ some '\\') :
    (mask (linkageGuarded source)).toList =
        half (List.replicate 12 ' ' ++ ['\n']) ++ ((mask source).toList ++ half [' ', '\n']) ∧
      Ended (mask source).toList := by
  obtain ⟨a, b, hs, ha, hb⟩ := exists_last_line hend
  have hlines : lines source.toList = lines a ++ [b ++ ['\n']] := by
    rw [hs, ha.lines_append, lines_append_newline _ _ hb]
    rfl
  have hm := (masks_complete ha .initial).trans (masks_line ((lines a).foldl State.next .initial) hb)
  rw [← hs] at hm
  have hmask : (mask source).toList = (maskLines .initial (lines a)).flatten ++
      ((lines a).foldl State.next .initial).mask (b ++ ['\n']) := by
    have h := hm []
    rw [mask, String.toList_ofList]
    simpa [lines, maskLines] using h
  rw [← hmask] at hm
  replace hlast := hlast (b ++ ['\n']) (by simp [hlines])
  refine ⟨?_, hmask ▸ ended_masked ha hlast _ _⟩
  -- no directive goes on behind the last line, and the branches that are open there stay open
  have hdone := continued_next ((lines a).foldl State.next .initial) hlast
  generalize ((lines a).foldl State.next .initial).next (b ++ ['\n']) = s at hm hdone
  obtain ⟨bs, _⟩ := s
  obtain rfl : _ = false := hdone
  have hstart := masks_half [] (b := "extern \"C\" \x7b".toList) (by simp [IsText]; decide)
  have hstop := masks_half bs (b := "\x7d".toList) (by simp [IsText]; decide)
  have h := (hstart.trans (hm.trans hstop)) []
  rw [← toList_linkageGuarded, List.append_nil] at h
  rw [mask, String.toList_ofList, State.initial, h]
  exact List.append_nil _

end Quadrature.C.Guard

namespace Quadrature.C.Scan

open Lexeme Guard

variable {cs rest blank : List Char} {ps : List Piece}

/-! ## Scanning -/

lemma scans_half (s : State) (hb : ∀ c ∈ blank, isSpace c = true) (rest : List Char) :
    ∃ p s', Scans s (opening "ifdef" "__cplusplus".toList ++ '\n' :: blank ++ closing) [p] s' ('\n' :: rest) ∧
      p.token = .branch (.ofPieces []) ∧
      s'.position = s.position.after (opening "ifdef" "__cplusplus".toList ++ '\n' :: blank ++ closing) := by
  have hcpp : IsIdentifier "__cplusplus".toList := by decide +kernel
  have hends : EndsName ('\n' :: rest) := by
    intro c hc
    obtain rfl : '\n' = c := by simpa using hc
    rfl
  have hblank : ∀ c ∈ '\n' :: blank, isSpace c = true := List.forall_mem_cons.mpr ⟨rfl, hb⟩
  have hin := scans_blank (s.enter (.branch true false) (opening "ifdef" "__cplusplus".toList)) hblank
    (show Starts (closing ++ '\n' :: rest) from starts_hash _)
  obtain ⟨p, s', hscan, hp, hpos⟩ := scans_conditional (.inl rfl) hcpp hin hends
  refine ⟨p, s', hscan, hp, ?_⟩
  rw [hpos, Position.after_append, Position.after_append]
  rfl

lemma run_of_text {scanned : Scanned} (hc : ∀ c ∈ cs.head?, c.toNat ≠ 0xFEFF) (h : text cs = .ok scanned) :
    ∃ r, run cs.length (.initial .start) cs = .ok r ∧ r.outer = [] ∧ scanned.pieces = r.frame.pieces.reverse := by
  rw [text, start_of_unmarked hc] at h
  dsimp only at h
  split at h
  · cases h
  · next r hr =>
    split at h
    · next hout =>
      obtain rfl := Except.ok.inj h
      exact ⟨r, hr, hout, rfl⟩
    · cases h

lemma exists_blanks (cs : List Char) : ∃ ws ds, cs = ws ++ ds ∧ (∀ c ∈ ws, isSpace c = true) ∧ Starts ds := by
  refine ⟨cs.takeWhile isSpace, cs.dropWhile isSpace, List.takeWhile_append_dropWhile.symm,
    fun c hc => List.mem_takeWhile_imp hc, fun c hc => ?_⟩
  have h := List.head?_dropWhile_not isSpace cs
  rw [Option.mem_def.mp hc] at h
  simpa using h

lemma Stacks.of_nil {n : Nat} {q : Piece} {f f' : Frame} {outer' : List Frame} (h : Stacks n q f [] f' outer') :
    outer' = [] ∧ ∃ ps, f'.pieces.reverse = q :: ps ∧ SameBehindLead (f.pieces.reverse.map (Piece.lower n)) ps := by
  cases h with
  | unit _ hps hs => exact ⟨rfl, _, hps, hs⟩

lemma reaches_behind_half {ws : List Char} (hws : ∀ c ∈ ws, isSpace c = true) (hr : Starts rest) :
    ∃ p s, Reaches (.initial .start) (half (List.replicate 12 ' ' ++ ['\n']) ++ (ws ++ rest)) s rest ∧
      p.token = .branch (.ofPieces []) ∧ ((State.initial .start).pass ws).Lowers 3 p s := by
  have hspaces : ∀ c ∈ List.replicate 12 ' ' ++ ['\n'], isSpace c = true := Text.forall_mem_of_all (by decide)
  obtain ⟨p, s, hhalf, hp, hpos⟩ := scans_half (.initial .start) hspaces (ws ++ rest)
  -- the blanks in front of the text are one run with the end of the line before it
  have hblank : ∀ c ∈ '\n' :: ws, isSpace c = true := List.forall_mem_cons.mpr ⟨rfl, hws⟩
  have hscan := hhalf.trans (scans_blank s hblank hr)
  refine ⟨p, s.pass ('\n' :: ws), ?_, hp, ?_, .inr ⟨rfl, rfl⟩, ?_⟩
  · have hreach := hscan.reaches
    simp only [List.append_assoc, List.cons_append] at hreach
    rw [half]
    simpa only [List.append_assoc, List.cons_append, List.nil_append] using hreach
  · have hline : s.position.next '\n' = Position.start.lower 3 := by
      rw [hpos]
      decide
    simp only [State.pass, Position.after_cons, hline, Position.lower_after]
    rfl
  · simp only [State.pass]
    rw [hhalf.frame, hhalf.outer]
    exact .unit rfl rfl .nil

lemma reaches_last_half (s : State) :
    ∃ p s', Reaches s (half [' ', '\n']) s' [] ∧ p.token = .branch (.ofPieces []) ∧
      s'.frame = s.frame.push p ∧ s'.outer = s.outer := by
  have hspace : ∀ c ∈ [' ', '\n'], isSpace c = true := Text.forall_mem_of_all (by decide)
  obtain ⟨p, s', hhalf, hp, -⟩ := scans_half s hspace []
  have hscan := hhalf.trans (scans_newline s' (by simp [Starts]))
  exact ⟨p, s'.pass ['\n'], by simpa [half] using hscan.reaches, hp, hhalf.frame, hhalf.outer⟩

/-- A text between the halves of a guard is scanned into the pieces of the text, three lines further
down, between the pieces of the halves. -/
lemma text_between_halves {scanned : Scanned} (hcs : Ended cs) (hc : ∀ c ∈ cs.head?, c.toNat ≠ 0xFEFF)
    (h : text cs = .ok scanned) :
    ∃ p ps q e, text (half (List.replicate 12 ' ' ++ ['\n']) ++ (cs ++ half [' ', '\n'])) =
        .ok ⟨p :: ps ++ [q], e⟩ ∧
      SameBehindLead (scanned.pieces.map (Piece.lower 3)) ps ∧
      p.token = .branch (.ofPieces []) ∧ q.token = .branch (.ofPieces []) := by
  obtain ⟨r, hrun, hout, hpieces⟩ := run_of_text hc h
  obtain ⟨ws, ds, rfl, hws, hds⟩ := exists_blanks cs
  obtain ⟨fuel, -, hfuel⟩ := (scans_blank (.initial .start) hws hds).reaches _ le_rfl
  rw [hfuel] at hrun
  obtain ⟨u, hu⟩ : ∃ u, half [' ', '\n'] = '#' :: u := ⟨_, rfl⟩
  have hunclosed : Unclosed ('#' :: u) := by
    rw [← hu]
    decide
  have hstarts : Starts (ds ++ '#' :: u) := by
    cases ds with
    | nil => exact starts_hash u
    | cons d ds => exact hds
  obtain ⟨p, s, hfirst, hp, hlowers⟩ := reaches_behind_half hws hstarts
  obtain ⟨r', hreach, hr'⟩ := hlowers.run hunclosed (hcs.suffix (List.suffix_append ws ds)) hrun
  have hstack := hr'.stack
  rw [hout] at hstack
  obtain ⟨hout', ps, hps, hsame⟩ := hstack.of_nil
  obtain ⟨q, s', hlast, hq, hframe, houter⟩ := reaches_last_half r'
  rw [hu] at hlast
  have hall := hfirst.trans (hreach.trans hlast)
  rw [← hu, ← List.append_assoc ws ds] at hall
  obtain ⟨e, htext⟩ := text_of_reaches hall (houter.trans hout') (by simp [half, opening])
  have hpieces' : s'.frame.pieces.reverse = p :: ps ++ [q] := by
    rw [hframe, Frame.push, List.reverse_cons, hps]
  rw [hpieces'] at htext
  exact ⟨p, ps, q, e, htext, hpieces ▸ hsame, hp, hq⟩

end Quadrature.C.Scan

namespace Quadrature.C

open Guard

variable {n : Nat} {p q : Piece} {ps qs : List Piece} {source : String}

/-! ## Items -/

lemma SameBehindLead.length (h : SameBehindLead ps qs) : qs.length = ps.length := by
  cases h <;> rfl

lemma itemsReading_between {top : Bool} {items : List Item} (hp : p.token = .branch (.ofPieces []))
    (hq : q.token = .branch (.ofPieces [])) (hs : SameBehindLead (ps.map (Piece.lower n)) qs)
    (h : itemsReading top ps.length ps = .ok items) :
    itemsReading top (p :: qs ++ [q]).length (p :: qs ++ [q]) =
      .ok (.conditional p.extent [] :: (lowerItems n items ++ [.conditional q.extent []])) := by
  have hnil : blockItems [] = some [] := rfl
  have hquiet : Quiet [q] := by
    obtain ⟨lead, text, extent, token⟩ := q
    obtain rfl := hq
    exact .branch lead text extent _
  have hmore : ∀ m, itemsReading top (m + 1) [q] = .ok [.conditional q.extent []] := by
    intro m
    rw [itemsReading, itemReading_branch hq hnil]
    simp [itemsReading, Except.map]
  have hrest : itemsReading top (qs ++ [q]).length (qs ++ [q]) =
      .ok (lowerItems n items ++ [.conditional q.extent []]) := by
    rw [hs.itemsReading, List.length_append, hs.length, List.length_map]
    exact itemsReading_lowerOnto hquiet hmore h
  rw [List.cons_append, List.length_cons, itemsReading, itemReading_branch hp hnil]
  dsimp only
  rw [hrest]
  rfl

lemma read_linkageGuarded {u : SourceUnit} (hmark : ∀ c ∈ source.toList.head?, c.toNat ≠ 0xFEFF)
    (hend : source.toList.getLast? = some '\n')
    (hlast : ∀ line ∈ (Text.lines source.toList).getLast?, (body line).getLast? ≠ some '\\')
    (h : SourceUnit.read (mask source) = .ok u) :
    ∃ e e' extent, SourceUnit.read (mask (linkageGuarded source)) =
      .ok ⟨.conditional e [] :: (lowerItems 3 u.items ++ [.conditional e' []]), extent⟩ := by
  obtain ⟨hmask, hended⟩ := mask_linkageGuarded hend hlast
  rw [← head?_mask] at hmark
  unfold SourceUnit.read at h
  split at h
  · exact nomatch h
  · next scanned hs =>
    obtain ⟨p, ps, q, extent, htext, hsame, hp, hq⟩ := Scan.text_between_halves hended hmark hs
    cases hr : itemsReading true scanned.pieces.length scanned.pieces with
    | error e => rw [hr] at h; exact nomatch h
    | ok items =>
      rw [hr] at h
      obtain rfl := Except.ok.inj h
      refine ⟨p.extent, q.extent, extent, ?_⟩
      rw [SourceUnit.read, hmask, htext]
      dsimp only
      rw [itemsReading_between hp hq hsame hr]
      rfl

lemma functionsIn_conditional (aliases : Aliases) (e : Extent) (items : List Item) :
    functionsIn (outlineItems aliases (.conditional e [] :: items)).1 =
      functionsIn (outlineItems aliases items).1 := by
  simp [outlineItems, Item.outline, functionsIn, Node.functions]

lemma functionsIn_between (e e' : Extent) (items : List Item) :
    functionsIn (outlineItems [] (.conditional e [] :: (items ++ [.conditional e' []]))).1 =
      functionsIn (outlineItems [] items).1 := by
  rw [functionsIn_conditional, outlineItems_append, functionsIn_append, functionsIn_conditional]
  simp [outlineItems, functionsIn]

end Quadrature.C

namespace Quadrature

open C

/-- A guard around a source moves its declarations down, and does nothing else to them. -/
theorem guarded_source_declares_same {source : String} {root : Node}
    (hmark : ∀ c ∈ source.toList.head?, c.toNat ≠ 0xFEFF) (hend : source.toList.getLast? = some '\n')
    (hlast : ∀ line ∈ (Text.lines source.toList).getLast?, (Guard.body line).getLast? ≠ some '\\')
    (h : readSource source = .ok root) :
    ∃ root', readSource (Guard.linkageGuarded source) = .ok root' ∧
      ∀ path, ∃ ds, Extraction.declarations path root = .ok ds ∧
        Extraction.declarations path root' = .ok (ds.map (FunctionDeclaration.lower 3)) := by
  have hsigned := readSource_allSigned h
  unfold readSource at h
  split at h
  · next u hu =>
    obtain rfl := Except.ok.inj h
    obtain ⟨e, e', extent, hread⟩ := read_linkageGuarded hmark hend hlast hu
    refine ⟨_, by rw [readSource, hread], fun path => ?_⟩
    obtain ⟨ds, hds⟩ := declarations_ok path hsigned
    refine ⟨ds, hds, ?_⟩
    have hfunctions : ∀ items e,
        (SourceUnit.outline ⟨items, e⟩).functions = functionsIn (outlineItems [] items).1 := by
      intro items e
      simp [SourceUnit.outline, Node.functions]
    rw [Extraction.declarations_eq] at hds ⊢
    rw [hfunctions, functionsIn_between, outlineItems_lower, functionsIn_lower, Extraction.mapM_record_lower]
    rw [hfunctions] at hds
    rw [hds]
    rfl
  · cases h

theorem guarded_header_declares_same :
    let header := "#ifndef A_H\n#define A_H\nint f(double x, int);\n#endif\ndouble g(void);\n"
    ∃ root root' ds, readSource header = .ok root ∧ Extraction.declarations "a.h" root = .ok ds ∧
      ds.map (·.name) = ["f", "g"] ∧ readSource (Guard.linkageGuarded header) = .ok root' ∧
      Extraction.declarations "a.h" root' = .ok (ds.map (FunctionDeclaration.lower 3)) := by
  intro header
  have hread : (readSource header).toOption.any (fun root => (Extraction.declarations "a.h" root).toOption.any
      fun ds => ds.map (·.name) = ["f", "g"]) = true := by
    decide +kernel
  have hmark : ∀ c ∈ header.toList.head?, c.toNat ≠ 0xFEFF := by
    intro c hc
    obtain rfl : '#' = c := by simpa [header] using hc
    decide
  cases h : readSource header with
  | error e => rw [h] at hread; exact nomatch hread
  | ok root =>
    obtain ⟨root', h', hdeclares⟩ := guarded_source_declares_same hmark (by decide +kernel)
      (by decide +kernel) h
    obtain ⟨ds, hds, hds'⟩ := hdeclares "a.h"
    rw [h] at hread
    obtain ⟨ds', hds'', hnames⟩ := exists_of_any hread
    obtain rfl := Except.ok.inj (hds.symm.trans hds'')
    exact ⟨root, root', ds, rfl, hds, of_decide_eq_true hnames, h', hds'⟩

end Quadrature
