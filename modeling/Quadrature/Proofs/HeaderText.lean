import Quadrature.Generation.Code
import Quadrature.Proofs.Extraction
import Quadrature.Proofs.Masking
import Quadrature.Proofs.WrittenDirectives

/-! The text of a generated header, and what is left of it for a C compiler. -/

namespace Quadrature.Generation

open Template Templates

def bannerText (banner : String) : String := if banner = "" then "" else "/* " ++ banner ++ " */\n"

def headerText (banner guard withDefaults signature : String) : String :=
  bannerText banner ++ ("#ifndef " ++ guard ++ "\n") ++ ("#define " ++ guard ++ "\n") ++
    "\n#ifdef __cplusplus\nextern \"C\" \x7b\n" ++ (withDefaults ++ ";\n") ++ "\x7d\n#else\n" ++
    (signature ++ ";\n") ++ "#endif\n\n" ++ ("#endif /* " ++ guard ++ " */\n")

structure Provides (scope : Scope) (banner guard withDefaults signature : String) : Prop where
  banner : scope.find? ["banner"] = some (.text banner)
  guard : scope.find? ["include_guard"] = some (.text guard)
  withDefaults : scope.find? ["integral", "signature_with_defaults"] = some (.text withDefaults)
  signature : scope.find? ["integral", "signature"] = some (.text signature)

lemma provides_baseContext (i : Integral) (o : GenerationOptions) (extra : Scope) :
    Provides (baseContext i o ++ extra) (o.banner.getD "") o.guard i.signatureWithDefaults i.signature := by
  constructor <;> rfl

lemma renderAll_append {scope : Scope} {xs ys : List Segment} {a b : String}
    (hx : renderAll scope xs = some a) (hy : renderAll scope ys = some b) :
    renderAll scope (xs ++ ys) = some (a ++ b) := by
  induction xs generalizing a with
  | nil =>
    obtain rfl : "" = a := by simpa [renderAll] using hx
    simpa using hy
  | cons x xs ih =>
    rw [renderAll] at hx
    rw [List.cons_append, renderAll]
    cases hr : x.render scope with
    | none => simp [hr] at hx
    | some c =>
      rw [hr] at hx
      obtain ⟨d, hd, rfl⟩ := Option.map_eq_some_iff.mp hx
      simp [ih hd, String.append_assoc]

lemma render_put {scope : Scope} {path : List String} {text : String} (h : scope.find? path = some (.text text)) :
    (put path).render scope = some text := by
  simp [put, Segment.render, Expr.eval, h, printed]

lemma render_banner {scope : Scope} {banner : String} (h : scope.find? ["banner"] = some (.text banner)) :
    renderAll scope bannerComment = some (bannerText banner) := by
  have hc : Expr.holds scope (.path ["banner"]) = some (truthy (.text banner)) := by
    simp [Expr.holds, Expr.eval, h, truth]
  simp only [bannerComment, renderAll, Segment.render, hc, truthy, bannerText]
  by_cases hb : banner = ""
  · simp [hb]
  · simp [hb, line, renderAll, render_put h, Segment.render, String.append_assoc]

lemma Provides.render_header {scope : Scope} {banner guard withDefaults signature : String}
    (h : Provides scope banner guard withDefaults signature) :
    Templates.header.render scope = some (headerText banner guard withDefaults signature) := by
  have hguard : ∀ before : String, renderAll scope (line [.text before, Templates.guard]) =
      some (before ++ guard ++ "\n") := by
    intro before
    simp [line, renderAll, Templates.guard, render_put h.guard, Segment.render, String.append_assoc]
  have hcode : ∀ (ls : List String) (text : String), plainLines ls = text →
      renderAll scope (code ls) = some text := by
    rintro ls _ rfl
    simp [code, renderAll, Segment.render]
  have hsignature : ∀ {path : List String} {v : String}, scope.find? path = some (.text v) →
      renderAll scope (line [put path, .text ";"]) = some (v ++ ";\n") := by
    intro path v hv
    simp [line, renderAll, render_put hv, Segment.render]
  have hlast : renderAll scope (line [.text "#endif /* ", Templates.guard, .text " */"]) =
      some ("#endif /* " ++ guard ++ " */\n") := by
    simp [line, renderAll, Templates.guard, render_put h.guard, Segment.render, String.append_assoc]
  rw [Template.render, Templates.header, headerText]
  refine renderAll_append (renderAll_append (renderAll_append (renderAll_append (renderAll_append
    (renderAll_append (renderAll_append (renderAll_append (render_banner h.banner) (hguard _)) (hguard _)) (hcode _ _ ?_))
    (hsignature h.withDefaults)) (hcode _ _ ?_)) (hsignature h.signature)) (hcode _ _ ?_)) hlast
  all_goals decide

lemma Provides.header_eq {scope : Scope} {banner guard withDefaults signature text : String}
    (h : Provides scope banner guard withDefaults signature)
    (ht : TemplateSet.builtin.render .header scope = .ok text) :
    text = headerText banner guard withDefaults signature := by
  have hr : TemplateSet.builtin.render .header scope =
      .ok (headerText banner guard withDefaults signature) := by
    simp only [TemplateSet.render, TemplateSet.get, TemplateSet.builtin, h.render_header]
  exact Except.ok.inj (ht.symm.trans hr)

lemma dimensions_of_check {i : Integral} {u : Unit} (h : checkDimensions i = .ok u) :
    i.dimensions ≠ 0 := by
  intro hz
  rw [checkDimensions, if_pos hz] at h
  cases h

lemma header_of_generateCode {files : Store} {backend : Backend} {i : Integral} {o : GenerationOptions}
    {code : GeneratedCode} (h : generateCode .builtin files backend i o = .ok code) :
    i.dimensions ≠ 0 ∧
      code.header = headerText (o.banner.getD "") o.guard i.signatureWithDefaults i.signature := by
  cases backend with
  | gsl a =>
    obtain ⟨_, hc, h⟩ := bind_ok h
    obtain ⟨header, hh, h⟩ := bind_ok h
    obtain ⟨source, -, h⟩ := bind_ok h
    obtain rfl := Except.ok.inj h
    exact ⟨dimensions_of_check hc, (provides_baseContext i o _).header_eq hh⟩
  | openCl =>
    obtain ⟨text, -, h⟩ := bind_ok h
    obtain ⟨_, hc, h⟩ := bind_ok h
    obtain ⟨program, -, h⟩ := bind_ok h
    obtain ⟨header, hh, h⟩ := bind_ok h
    obtain ⟨source, -, h⟩ := bind_ok h
    obtain rfl := Except.ok.inj h
    rw [openClContext, List.append_assoc] at hh
    exact ⟨dimensions_of_check hc, (provides_baseContext i o _).header_eq hh⟩

end Quadrature.Generation

namespace Quadrature.C.Guard

open Text Lexeme

variable {s s' s'' : State} {b cs ds m m' : List Char} {bs : List Branch}

def Masks (s : State) (cs m : List Char) (s' : State) : Prop :=
  ∀ rest, (maskLines s (lines (cs ++ rest))).flatten = m ++ (maskLines s' (lines rest)).flatten

lemma Masks.trans (h : Masks s cs m s') (h' : Masks s' ds m' s'') : Masks s (cs ++ ds) (m ++ m') s'' := by
  intro rest
  rw [List.append_assoc, h, h', List.append_assoc]

lemma masks_line (s : State) (hb : '\n' ∉ b) :
    Masks s (b ++ ['\n']) (s.mask (b ++ ['\n'])) (s.next (b ++ ['\n'])) := by
  intro rest
  rw [List.append_assoc, List.singleton_append, lines_append_newline _ _ hb, maskLines, List.flatten_cons]

lemma masks_complete (h : Complete cs) (s : State) :
    Masks s cs (maskLines s (lines cs)).flatten ((lines cs).foldl State.next s) := by
  induction h generalizing s with
  | nil => exact fun _ => rfl
  | @line b cs hb _ ih =>
    have h := (masks_line s hb).trans (ih (s.next (b ++ ['\n'])))
    rw [lines_append_newline _ _ hb, maskLines, List.flatten_cons, List.foldl_cons]
    simpa using h

lemma body_of_last (h : ∀ c ∈ b.getLast?, c ≠ '\n' ∧ c ≠ '\r') : body (b ++ ['\n']) = b := by
  rw [body_newline]
  rcases List.eq_nil_or_concat' b with rfl | ⟨b, c, rfl⟩
  · rfl
  · have hc := h c (by simp)
    exact List.rdropWhile_concat_neg (fun c => c == '\n' || c == '\r') b c (by simp [hc.1, hc.2])

lemma masks_directive (bs : List Branch) (hb : '\n' ∉ b) (hd : b.head? = some '#')
    (hl : ∀ c ∈ b.getLast?, c ≠ '\r' ∧ c ≠ '\\') :
    Masks ⟨bs, false⟩ (b ++ ['\n']) (b ++ ['\n']) ⟨track bs b, false⟩ := by
  have hbody : body (b ++ ['\n']) = b := by
    refine body_of_last fun c hc => ⟨?_, (hl c hc).1⟩
    rintro rfl
    exact hb (List.mem_of_getLast? hc)
  have hdir : State.isDirective ⟨bs, false⟩ (b ++ ['\n']) = true := by
    obtain ⟨t, ht⟩ := List.head?_eq_some_iff.mp hd
    have hs : isBlank '#' = false := rfl
    rw [State.isDirective, hbody, ht]
    simp [hs]
  have hlast : (b.getLast? == some '\\') = false := by
    rw [beq_eq_false_iff_ne]
    exact fun he => (hl _ he).2 rfl
  have h := masks_line ⟨bs, false⟩ hb
  rw [State.mask, State.next, if_pos hdir, if_pos hdir, hbody, hlast] at h
  exact h

def IsText (b : List Char) : Prop := '\n' ∉ b ∧ ∀ c ∈ b.head?, isBlank c = false ∧ c ≠ '#'

lemma IsText.isDirective (h : IsText b) (bs : List Branch) :
    State.isDirective ⟨bs, false⟩ (b ++ ['\n']) = false := by
  obtain ⟨-, hb⟩ := h
  cases hbody : body (b ++ ['\n']) with
  | nil => simp [State.isDirective, hbody]
  | cons c t =>
    have hc : c ∈ b.head? := by
      rw [body_newline] at hbody
      obtain ⟨u, hu⟩ := body_isPrefix b
      rw [← hu, hbody]
      rfl
    simp [State.isDirective, hbody, (hb c hc).1, (hb c hc).2]

lemma masks_kept (bs : List Branch) (h : IsText b) (hx : bs.any Branch.excluded = false) :
    Masks ⟨bs, false⟩ (b ++ ['\n']) (b ++ ['\n']) ⟨bs, false⟩ := by
  have hm := masks_line ⟨bs, false⟩ h.1
  rw [State.mask, State.next, h.isDirective] at hm
  simpa [State.excludes, hx] using hm

lemma masks_blanked (bs : List Branch) (h : IsText b) (hx : bs.any Branch.excluded = true) :
    Masks ⟨bs, false⟩ (b ++ ['\n']) (blank (b ++ ['\n'])) ⟨bs, false⟩ := by
  have hm := masks_line ⟨bs, false⟩ h.1
  rw [State.mask, State.next, h.isDirective] at hm
  simpa [State.excludes, hx] using hm

lemma isSpace_of_mem_blank {c : Char} (hl : ∀ c ∈ b.getLast?, c ≠ '\n' ∧ c ≠ '\r')
    (h : c ∈ blank (b ++ ['\n'])) : isSpace c = true := by
  rw [blank, terminator, body_of_last hl, List.drop_left, List.mem_append, List.mem_singleton] at h
  rcases h with h | rfl
  · rw [List.eq_of_mem_replicate h]
    rfl
  · rfl

lemma Blanked.unclosed {t : List Char} (h : Blanked m cs) (hu : Unclosed (cs ++ t)) :
    Unclosed (m ++ t) ∧ ((m ++ t).head? = some '/' → (cs ++ t).head? = some '/') := by
  -- the second part lets a kept star see what stood behind it
  induction h with
  | nil => exact ⟨hu, id⟩
  | keep c _ ih =>
    rw [List.cons_append, Unclosed, List.isChain_cons] at hu
    obtain ⟨hm, hh⟩ := ih hu.2
    refine ⟨List.isChain_cons.mpr ⟨?_, hm⟩, id⟩
    rintro y hy ⟨rfl, rfl⟩
    exact hu.1 _ (hh hy) ⟨rfl, rfl⟩
  | @blank m cs c _ _ ih =>
    obtain ⟨hm, -⟩ := ih hu.tail
    have hspaces : ∀ n, Unclosed (List.replicate n ' ' ++ (m ++ t)) := by
      intro n
      induction n with
      | zero => exact hm
      | succ n ih => exact List.isChain_cons.mpr ⟨fun y _ hy => absurd hy.1 (by decide), ih⟩
    obtain ⟨n, hn⟩ := Nat.exists_eq_succ_of_ne_zero (Nat.pos_iff_ne_zero.mp c.utf8Size_pos)
    rw [List.append_assoc]
    exact ⟨hspaces _, fun he => by simp [hn, List.replicate_succ] at he⟩

def IsBanner (cs : List Char) : Prop :=
  cs = [] ∨ ∃ body, Unclosed body ∧ cs = '/' :: '*' :: body ++ ['*', '/'] ++ ['\n']

lemma unclosed_banner (h : Unclosed b) : Unclosed ('/' :: '*' :: ' ' :: b ++ [' ']) := by
  have hb : Unclosed (b ++ [' ']) :=
    List.isChain_append.mpr ⟨h, List.isChain_singleton _, fun x _ y hy hxy => by simp_all⟩
  refine List.isChain_cons_cons.mpr ⟨by simp, List.isChain_cons_cons.mpr ⟨by simp, ?_⟩⟩
  exact List.isChain_cons.mpr ⟨fun y _ hy => absurd hy.1 (by decide), hb⟩

lemma maskLines_initial_start (h : Complete cs) {c d : Char} (hc : c ≠ '\n') (hd : d ≠ '\n')
    (he : cs ++ ds = c :: d :: b) : ∃ t, (maskLines .initial (lines cs)).flatten ++ ds = c :: d :: t := by
  cases h with
  | nil => exact ⟨b, he⟩
  | @line l cs hl _ =>
    match l, he with
    | [], he => exact absurd (List.cons.inj he).1.symm hc
    | [_], he => exact absurd (List.cons.inj (List.cons.inj he).2).1.symm hd
    | x :: y :: l, he =>
      simp only [List.cons_append, List.cons.injEq] at he
      obtain ⟨rfl, rfl, -⟩ := he
      -- no branch is open at the first line
      have hm : ∀ line, State.initial.mask line = line := by
        intro line
        simp [State.mask, State.excludes, State.initial]
      rw [lines_append_newline _ _ hl, maskLines, hm, List.flatten_cons]
      exact ⟨_, rfl⟩

/-- Holds of a banner behind which no branch for C++ compilers is open. -/
def ClosesBranches (banner : String) : Prop :=
  ((lines (Generation.bannerText banner).toList).foldl State.next .initial).excludes = false

instance : DecidablePred ClosesBranches := fun _ => inferInstanceAs (Decidable (_ = false))

lemma masks_banner {banner : String} (hu : ¬ ['*', '/'] <:+: banner.toList) (hx : ClosesBranches banner) :
    ∃ m bs, Masks .initial (Generation.bannerText banner).toList m ⟨bs, false⟩ ∧ IsBanner m ∧
      bs.any Branch.excluded = false := by
  rw [ClosesBranches, Generation.bannerText] at hx
  rw [Generation.bannerText]
  split_ifs at hx ⊢ with hb
  · exact ⟨[], [], fun _ => rfl, .inl rfl, rfl⟩
  -- the comment closes on its last line, which is looked at apart from the lines before it
  obtain ⟨a, l, he, ha, hl⟩ := exists_complete_append ('/' :: '*' :: ' ' :: banner.toList ++ [' '])
  have htext : ("/* " ++ banner ++ " */\n").toList = a ++ (l ++ ['*', '/'] ++ ['\n']) := by
    have ht : ("/* " ++ banner ++ " */\n").toList =
        '/' :: '*' :: ' ' :: banner.toList ++ [' '] ++ ['*', '/'] ++ ['\n'] := by simp
    rw [ht, he]
    simp
  have hline : '\n' ∉ l ++ ['*', '/'] := by simp [hl]
  have hlines : lines (a ++ (l ++ ['*', '/'] ++ ['\n'])) = lines a ++ [l ++ ['*', '/'] ++ ['\n']] := by
    rw [ha.lines_append, lines_append_newline _ _ hline]
    rfl
  rw [htext] at hx ⊢
  rw [hlines, List.foldl_append, List.foldl_cons, List.foldl_nil] at hx
  generalize ht : (lines a).foldl State.next .initial = t at hx
  have hm := (masks_complete ha .initial).trans (masks_line _ hline)
  rw [ht] at hm
  -- the last line stays: as a directive, or because no branch is open behind it
  have hkeep : t.mask (l ++ ['*', '/'] ++ ['\n']) = l ++ ['*', '/'] ++ ['\n'] := by
    rw [State.mask]
    split_ifs with hd
    · rfl
    · rw [State.next, if_neg hd] at hx
      simp_all
    · rfl
  have hcontinued : (t.next (l ++ ['*', '/'] ++ ['\n'])).continued = false := by
    have hbody : body (l ++ ['*', '/'] ++ ['\n']) = l ++ ['*', '/'] := body_of_last (by simp)
    rw [State.next_continued, isContinued, hbody]
    simp
  have hblank := blanked_maskLines (areLines_lines a) .initial
  rw [flatten_lines] at hblank
  have hunclosed := (hblank.unclosed (he ▸ unclosed_banner (unclosed_iff.mpr hu))).1
  obtain ⟨body, hbody⟩ := maskLines_initial_start ha (by decide) (by decide) he.symm
  rw [hbody] at hunclosed
  generalize t.next (l ++ ['*', '/'] ++ ['\n']) = t' at hx hm hcontinued
  obtain ⟨bs, _⟩ := t'
  obtain rfl : _ = false := hcontinued
  refine ⟨_, bs, hm, .inr ⟨body, hunclosed.tail.tail, ?_⟩, hx⟩
  rw [hkeep, ← List.append_assoc, ← List.append_assoc, hbody]

def alternatives (before declaration : List Char) : List Char :=
  Scan.opening "ifdef" "__cplusplus".toList ++ '\n' :: before ++ ('#' :: "else".toList) ++
    '\n' :: (declaration ++ ['\n']) ++ Scan.closing

def guarded (guard before declaration : List Char) : List Char :=
  Scan.opening "ifndef" guard ++
    '\n' :: ('#' :: "define".toList ++ ' ' :: guard ++ ['\n'] ++
      ('\n' :: alternatives before declaration ++ ['\n', '\n'])) ++
    Scan.closing ++ (' ' :: ('/' :: '*' :: (' ' :: guard ++ [' ']) ++ ['*', '/']) ++ ['\n'])

lemma masks_alternatives {before after : List Char} (bs : List Branch) (hb : IsText (before ++ [';']))
    (ha : IsText (after ++ [';'])) (hx : bs.any Branch.excluded = false) :
    ∃ blank, (∀ c ∈ blank, isSpace c = true) ∧
      Masks ⟨bs, false⟩
        (alternatives ("extern \"C\" \x7b\n".toList ++ before ++ ";\n\x7d\n".toList) (after ++ [';']) ++
          ['\n'])
        (alternatives blank (after ++ [';']) ++ ['\n']) ⟨bs, false⟩ := by
  have hopen := masks_directive bs (b := "#ifdef __cplusplus".toList) (by simp) rfl (by simp)
  have hlinkage := masks_blanked (⟨true, true⟩ :: bs) (b := "extern \"C\" \x7b".toList)
    (by simp [IsText]; decide) rfl
  have hbefore := masks_blanked (⟨true, true⟩ :: bs) hb rfl
  have hend := masks_blanked (⟨true, true⟩ :: bs) (b := "\x7d".toList) (by simp [IsText]; decide) rfl
  have helse := masks_directive (⟨true, true⟩ :: bs) (b := "#else".toList) (by simp) rfl (by simp)
  have hafter := masks_kept (⟨true, false⟩ :: bs) ha hx
  have hclose : Masks ⟨⟨true, false⟩ :: bs, false⟩ ("#endif".toList ++ ['\n']) ("#endif".toList ++ ['\n'])
      ⟨bs, false⟩ := masks_directive _ (by simp) rfl (by simp)
  have h := hopen.trans (hlinkage.trans (hbefore.trans (hend.trans (helse.trans (hafter.trans hclose)))))
  refine ⟨blank ("extern \"C\" \x7b".toList ++ ['\n']) ++ blank (before ++ [';'] ++ ['\n']) ++
    blank ("\x7d".toList ++ ['\n']), ?_, ?_⟩
  · intro c hc
    rcases List.mem_append.mp hc with hc | hc
    · rcases List.mem_append.mp hc with hc | hc
      · exact isSpace_of_mem_blank (by simp) hc
      · exact isSpace_of_mem_blank (by simp) hc
    · exact isSpace_of_mem_blank (by simp) hc
  · simpa [alternatives, Scan.opening, Scan.closing] using h

lemma mask_headerText {banner guard withDefaults signature : String}
    (hu : ¬ ['*', '/'] <:+: banner.toList) (hx : ClosesBranches banner) (hg : '\n' ∉ guard.toList)
    (hl : ∀ c ∈ guard.toList.getLast?, c ≠ '\r' ∧ c ≠ '\\')
    (hw : IsText (withDefaults.toList ++ [';'])) (hs : IsText (signature.toList ++ [';'])) :
    ∃ comment blank, IsBanner comment ∧ (∀ c ∈ blank, isSpace c = true) ∧
      (mask (Generation.headerText banner guard withDefaults signature)).toList =
        comment ++ guarded guard.toList blank (signature.toList ++ [';']) := by
  obtain ⟨comment, bs, hbanner, hc, hx⟩ := masks_banner hu hx
  have hlast : ∀ before : List Char, before.getLast? = some ' ' →
      ∀ c ∈ (before ++ guard.toList).getLast?, c ≠ '\r' ∧ c ≠ '\\' := by
    intro before hb c hc
    rw [List.getLast?_append, hb] at hc
    cases hgl : guard.toList.getLast? with
    | none =>
      obtain rfl : ' ' = c := by simpa [hgl] using hc
      decide
    | some d => exact hl c (by simpa [hgl] using hc)
  obtain ⟨x, htrack⟩ : ∃ x, track bs ("#ifndef ".toList ++ guard.toList) = ⟨x, false⟩ :: bs := ⟨_, rfl⟩
  have hopen := masks_directive bs (b := "#ifndef ".toList ++ guard.toList) (by simp [hg]) rfl
    (hlast _ (by decide))
  rw [htrack] at hopen
  have hdefine := masks_directive (⟨x, false⟩ :: bs) (b := "#define ".toList ++ guard.toList)
    (by simp [hg]) rfl (hlast _ (by decide))
  have hempty := masks_kept (⟨x, false⟩ :: bs) (b := []) (by simp [IsText]) hx
  obtain ⟨blank, hblank, hbranch⟩ := masks_alternatives (⟨x, false⟩ :: bs) hw hs hx
  have hend : ("#endif /* ".toList ++ guard.toList ++ " */".toList).getLast? = some '/' := by
    rw [List.getLast?_append]
    rfl
  have hclose := masks_directive (⟨x, false⟩ :: bs) (b := "#endif /* ".toList ++ guard.toList ++ " */".toList)
    (by simp [hg]) rfl (by simp only [hend]; simp)
  have h := hbanner.trans (hopen.trans (hdefine.trans (hempty.trans (hbranch.trans (hempty.trans hclose)))))
  refine ⟨comment, blank, hc, hblank, ?_⟩
  have ht := h []
  rw [mask, String.toList_ofList]
  simpa [Generation.headerText, guarded, alternatives, Scan.opening, Scan.closing, lines, maskLines] using ht

end Quadrature.C.Guard
