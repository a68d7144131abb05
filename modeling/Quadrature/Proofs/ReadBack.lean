import Quadrature.Proofs.HeaderText
import Quadrature.Proofs.IntegralNames
import Quadrature.Proofs.Recorded

/-! Generated headers are read back: the front end finds the declaration of the integral in them, and
nothing else. -/

namespace Quadrature.C

open Lexeme

variable {t w : String} {ps ts : List Piece} {n p q r : Piece} {rank : Int} {params : Parameters}

lemma itemReading_branch {top : Bool} {items : List Item} (hp : p.token = .branch (.ofPieces ps))
    (h : blockItems ps = some items) (rest : List Piece) :
    itemReading top (p :: rest) = some ([.conditional p.extent items], rest) := by
  simp only [itemReading, hp, Branch.ofPieces, h, Option.map_some]

lemma Prototype.blockItems (h : Prototype t w ts n r q rank params) :
    ∃ e, C.blockItems (ts ++ [n, r, q]) =
      some [.declaration ⟨e, plainSpecifier t, [.function params (.name w)]⟩] := by
  obtain ⟨e, he⟩ := h.itemReading false
  refine ⟨e, ?_⟩
  rw [C.blockItems, itemsReading_of_item (by simp) he]
  rfl

lemma blockItems_branch {items : List Item} (hp : p.token = .branch (.ofPieces ps))
    (h : blockItems ps = some items) : blockItems [p] = some [.conditional p.extent items] := by
  rw [blockItems, itemsReading_of_item (by simp) (itemReading_branch hp h [])]
  rfl

lemma blockItems_directive {items : List Item} (hp : p.token = .directive) (h : blockItems [q] = some items) :
    blockItems [p, q] = some items := by
  have hitem : itemReading false [p, q] = some ([], [q]) := by simp only [itemReading, hp]
  rw [blockItems] at h ⊢
  rw [List.length_cons, itemsReading, hitem]
  dsimp only
  cases hq : itemsReading false [q].length [q] with
  | error e =>
    rw [hq] at h
    cases h
  | ok items' =>
    rw [hq] at h
    exact h

lemma originsOf_conditional (e : Extent) (items : List Item) :
    originsOf [] [.conditional e items] = originsOf [] items := by
  rw [originsOf, Item.origins, originsOf, List.append_nil]

variable {xs : List (Extent × Specifier × Declarator)} {es : List (Specifier × Declarator)}
  {specifier : Specifier} {name : String}

lemma isVoid_ofEntries (h : xs.map Prod.snd = (specifier, .name name) :: es) :
    (Parameters.ofEntries xs).isVoid [] = false := by
  obtain ⟨⟨e, _⟩, xs, rfl, rfl, -⟩ := List.map_eq_cons_iff.mp h
  rfl

end Quadrature.C

namespace Quadrature.C.Scan

open Lexeme Guard

variable {s : State} {t w signature : String} {as : List Argument} {guard blank rest : List Char}

lemma unclosed_guard (h : '*' ∉ guard) : Unclosed (' ' :: guard ++ [' ']) := by
  refine unclosed_iff.mpr fun hi => ?_
  have hm := hi.subset List.mem_cons_self
  simp [h] at hm

lemma starts_hash (cs : List Char) : Starts ('#' :: cs) := by
  intro c hc
  obtain rfl : '#' = c := by simpa using hc
  rfl

def Alternative (t w : String) (as : List Argument) (p : Piece) : Prop :=
  ∃ q ts n r m rank xs, p.token = .branch (.ofPieces [q]) ∧
    q.token = .branch (.ofPieces (ts ++ [n, r, m])) ∧
    Prototype t w ts n r m rank (.ofEntries xs) ∧ xs.map Prod.snd = as.map entry ++ [errorEntry t]

lemma scans_alternatives (s : State) (hblank : ∀ c ∈ blank, isSpace c = true)
    (h : IntegralSignature t w as signature) (hr : EndsName rest) :
    ∃ p s', Scans s (Guard.alternatives blank (signature.toList ++ [';'])) [p] s' rest ∧
      Alternative t w as p := by
  have hcpp : IsIdentifier "__cplusplus".toList := by decide +kernel
  obtain ⟨s', ts, n, r, m, rank, xs, hin, hproto, hxs⟩ := scans_prototype
    (s := ((s.enter (.branch true false) (opening "ifdef" "__cplusplus".toList)).pass ('\n' :: blank)).enter
      (.branch false true) ('#' :: "else".toList)) rfl h (show Starts (closing ++ rest) from starts_hash _)
  have htext : '\n' :: signature.toList ++ [';', '\n'] = '\n' :: (signature.toList ++ [';'] ++ ['\n']) := by
    simp
  rw [htext] at hin
  obtain ⟨p, q, s'', hscan, hp, hq⟩ := scans_alternative (.inl rfl) hcpp hblank hin hr
  exact ⟨p, s'', hscan, q, ts, n, r, m, rank, xs, hp, hq, hproto, hxs⟩

lemma scans_comment_line {body : List Char} (s : State) (h : Unclosed body) (hr : Starts rest) :
    ∃ s', Scans s ('/' :: '*' :: body ++ ['*', '/'] ++ ['\n']) [] s' rest :=
  ⟨_, (scans_comment s h (['\n'] ++ rest)).trans (scans_newline _ hr)⟩

lemma scans_line (s : State) (cs : List Char) : Scans s ['\n'] [] (s.pass ['\n']) ('#' :: cs) :=
  scans_newline s (starts_hash cs)

lemma scans_inside (s : State) (hg : IsIdentifier guard) (hblank : ∀ c ∈ blank, isSpace c = true)
    (h : IntegralSignature t w as signature) (rest : List Char) :
    ∃ define alternative s',
      Scans s ('\n' :: ('#' :: "define".toList ++ ' ' :: guard ++ ['\n'] ++
        ('\n' :: Guard.alternatives blank (signature.toList ++ [';']) ++ ['\n', '\n'])))
        [define, alternative] s' ('#' :: rest) ∧
      define.token = .directive ∧ Alternative t w as alternative := by
  generalize hinner : Guard.alternatives blank (signature.toList ++ [';']) = inner
  have hends : EndsName (['\n', '\n'] ++ '#' :: rest) := by
    intro c hc
    obtain rfl : '\n' = c := by simpa using hc
    rfl
  obtain ⟨define, s₁, hdefine, htoken⟩ := scans_define (s.pass ['\n']) hg
    (['\n'] ++ (inner ++ (['\n', '\n'] ++ '#' :: rest)))
  obtain ⟨alternative, s₂, halternative, hpieces⟩ :=
    scans_alternatives (s₁.pass ['\n']) hblank h hends
  rw [hinner] at halternative
  have hhash : ∃ cs, inner = '#' :: cs := ⟨_, hinner.symm⟩
  obtain ⟨cs, rfl⟩ := hhash
  have hlast : Scans s₂ ['\n', '\n'] [] (s₂.pass ['\n', '\n']) ('#' :: rest) :=
    scans_blank _ (Text.forall_mem_of_all (by decide)) (starts_hash rest)
  have hscan := ((((scans_line s _).trans hdefine).trans (scans_line s₁ _)).trans halternative).trans hlast
  exact ⟨define, alternative, s₂.pass ['\n', '\n'], by simpa using hscan, htoken, hpieces⟩

lemma scans_guarded (s : State) (hg : IsIdentifier guard) (hstar : '*' ∉ guard)
    (hblank : ∀ c ∈ blank, isSpace c = true) (h : IntegralSignature t w as signature) :
    ∃ p define alternative s', Scans s (guarded guard blank (signature.toList ++ [';'])) [p] s' [] ∧
      p.token = .branch (.ofPieces [define, alternative]) ∧ define.token = .directive ∧
      Alternative t w as alternative := by
  generalize hending : '/' :: '*' :: (' ' :: guard ++ [' ']) ++ ['*', '/'] ++ ['\n'] = ending
  obtain ⟨define, alternative, s₁, hin, htoken, hpieces⟩ :=
    scans_inside (s.enter (.branch true false) (opening "ifndef" guard)) hg hblank h
      ("endif".toList ++ ([' '] ++ ending))
  have hends : EndsName ([' '] ++ ending) := by
    intro c hc
    obtain rfl : ' ' = c := by simpa using hc
    rfl
  obtain ⟨p, s₂, hscan, hp, -⟩ := scans_conditional (.inr rfl) hg hin hends
  have hspace : Scans s₂ [' '] [] (s₂.pass [' ']) ending := by
    refine scans_blank _ (Text.forall_mem_of_all (by decide)) fun c hc => ?_
    obtain rfl : '/' = c := by simpa [← hending] using hc
    rfl
  have hstop : Starts [] := by simp [Starts]
  obtain ⟨s₃, hcomment⟩ := scans_comment_line (s₂.pass [' ']) (unclosed_guard hstar) hstop
  rw [hending] at hcomment
  rw [← List.append_nil ending] at hscan hspace
  have hall := (hscan.trans hspace).trans hcomment
  exact ⟨p, define, alternative, s₃, by simpa [guarded, ← hending] using hall, hp, htoken, hpieces⟩

lemma scans_banner {comment : List Char} (s : State) (h : IsBanner comment) (hr : Starts rest) :
    ∃ s', Scans s comment [] s' rest := by
  rcases h with rfl | ⟨body, hbody, rfl⟩
  · exact ⟨s, .refl s rest, rfl, rfl⟩
  · exact scans_comment_line s hbody hr

lemma Alternative.blockItems {p : Piece} (h : Alternative t w as p) :
    ∃ items xs e, C.blockItems [p] = some items ∧ xs.map Prod.snd = as.map entry ++ [errorEntry t] ∧
      ((Parameters.ofEntries xs).isVoid [] = false → w ≠ "" →
        originsOf [] items = [(.prototype, prototypeNode t w xs e)]) := by
  obtain ⟨q, ts, n, r, m, rank, xs, hp, hq, hproto, hxs⟩ := h
  obtain ⟨e, he⟩ := hproto.blockItems
  refine ⟨_, xs, e, blockItems_branch hp (blockItems_branch hq he), hxs, fun hv hw => ?_⟩
  rw [originsOf_conditional, originsOf_conditional]
  exact originsOf_prototype hv hw e

lemma read_guarded {comment : List Char} {source : String} (hb : IsBanner comment) (hg : IsIdentifier guard)
    (hstar : '*' ∉ guard) (hblank : ∀ c ∈ blank, isSpace c = true)
    (h : IntegralSignature t w as signature)
    (hs : source.toList = comment ++ guarded guard blank (signature.toList ++ [';'])) :
    ∃ u xs e, SourceUnit.read source = .ok u ∧ xs.map Prod.snd = as.map entry ++ [errorEntry t] ∧
      originsOf [] u.items = [(.prototype, prototypeNode t w xs e)] := by
  obtain ⟨s₁, hbanner⟩ := scans_banner (.initial .start) hb
    (show Starts (guarded guard blank (signature.toList ++ [';']) ++ []) from starts_hash _)
  obtain ⟨p, define, alternative, s₂, hguarded, hp, hdefine, halternative⟩ :=
    scans_guarded s₁ hg hstar hblank h
  have hscan := hbanner.trans hguarded
  rw [← hs] at hscan
  have hstart : ∀ c ∈ source.toList.head?, c.toNat ≠ 0xFEFF := by
    intro c hc
    rw [hs] at hc
    rcases hb with rfl | ⟨body, -, rfl⟩
    · obtain rfl : '#' = c := by simpa [guarded, opening] using hc
      decide
    · obtain rfl : '/' = c := by simpa using hc
      decide
  obtain ⟨extent, htext⟩ := text_of_scans hscan hstart
  -- the groups have been read when they closed; what is left is one piece
  obtain ⟨items, xs, e, hitems, hxs, horigins⟩ := halternative.blockItems
  have hin := blockItems_directive hdefine hitems
  have hread : itemsReading true [p].length [p] = .ok [.conditional p.extent items] :=
    itemsReading_of_item (by simp) (itemReading_branch hp hin [])
  refine ⟨⟨[.conditional p.extent items], extent⟩, xs, e, ?_, hxs, ?_⟩
  · rw [SourceUnit.read, htext]
    simp only [List.nil_append, hread]
    rfl
  · obtain ⟨a, as, rfl⟩ := List.exists_cons_of_ne_nil h.nonempty
    rw [List.map_cons, entry, if_neg (h.arguments a List.mem_cons_self).name_ne] at hxs
    rw [originsOf_conditional]
    exact horigins (isVoid_ofEntries hxs) h.head.name_ne

end Quadrature.C.Scan

namespace Quadrature

open C Lexeme Scan Guard

variable {t w list : String} {as : List Argument}

lemma isText_signature (ht : t ∈ plainTypes) (hw : '\n' ∉ w.toList) (hl : '\n' ∉ list.toList) :
    IsText ((t ++ " " ++ w ++ "(" ++ list ++ ")").toList ++ [';']) := by
  obtain ⟨hn, hc⟩ := plainTypes_chars t ht
  refine ⟨by simp [hn, hw, hl], fun d hd => ?_⟩
  cases hcs : t.toList with
  | nil => simp [hcs] at hc
  | cons c cs =>
    obtain rfl : c = d := by simpa [hcs] using hd
    simpa [hcs] using hc

lemma newline_not_mem_argument (ht : t ∈ plainTypes) (has : ∀ a ∈ as, Declares a) :
    ∀ a ∈ as ++ [errorArgument t], '\n' ∉ a.type.toList ∧ '\n' ∉ a.name.toList := by
  intro a ha
  rcases List.mem_append.mp ha with ha | ha
  · exact ⟨(plainTypes_chars _ (has a ha).type).1, (has a ha).name.newline_not_mem⟩
  · obtain rfl := List.mem_singleton.mp ha
    have hn := (plainTypes_chars t ht).1
    simp [errorArgument, Integral.errorName, hn]

lemma isText_withDefaults (ht : t ∈ plainTypes) (hw : '\n' ∉ w.toList) (has : ∀ a ∈ as, Declares a)
    (count : Nat) :
    IsText ((t ++ " " ++ w ++ "(" ++
      Text.join ", " ((as ++ [errorArgument t]).zipWith Integral.withDefault
        (List.replicate count none ++ [some Integral.nullPointer])) ++ ")").toList ++ [';']) := by
  refine isText_signature ht hw (newline_not_mem_join fun x hx => ?_)
  rw [← List.map_uncurry_zip_eq_zipWith] at hx
  obtain ⟨⟨a, o⟩, hz, rfl⟩ := List.mem_map.mp hx
  obtain ⟨ha, ho⟩ := List.of_mem_zip hz
  obtain ⟨htype, hname⟩ := newline_not_mem_argument ht has a ha
  rcases List.mem_append.mp ho with ho | ho
  · obtain rfl := List.eq_of_mem_replicate ho
    simp [Integral.withDefault, htype, hname]
  · obtain rfl := List.mem_singleton.mp ho
    simp [Integral.withDefault, Integral.nullPointer, htype, hname]

lemma isText_written (ht : t ∈ plainTypes) (hw : '\n' ∉ w.toList) (has : ∀ a ∈ as, Declares a) :
    IsText ((t ++ " " ++ w ++ "(" ++
      Text.join ", " ((as ++ [errorArgument t]).map Argument.written) ++ ")").toList ++ [';']) := by
  refine isText_signature ht hw (newline_not_mem_join fun x hx => ?_)
  obtain ⟨a, ha, rfl⟩ := List.mem_map.mp hx
  obtain ⟨htype, hname⟩ := newline_not_mem_argument ht has a ha
  rw [Argument.written]
  split_ifs
  · exact htype
  · simp [htype, hname]

lemma signatures_of_derive {d : FunctionDeclaration} {name : Option String} {i : Integral}
    (hreturn : d.returnType ∈ plainTypes) (htypes : ∀ a ∈ d.arguments, a.type ∈ plainTypes)
    (hname : IsIdentifier d.name.toList)
    (hnames : ∀ a ∈ d.arguments, a.name ≠ "" → IsIdentifier a.name.toList)
    (hsupplied : ∀ n ∈ name, Suits d.returnType n) (h : Integral.derive d name = .ok i)
    (hdim : i.dimensions ≠ 0) :
    i.declaration.arguments = Integral.boundsFrom 0 d.arguments ++ [errorArgument d.returnType] ∧
    IntegralSignature d.returnType i.name (Integral.boundsFrom 0 d.arguments) i.signature ∧
    IsText (i.signature.toList ++ [';']) ∧ IsText (i.signatureWithDefaults.toList ++ [';']) := by
  rw [Integral.derive] at h
  split at h
  · cases h
  · next n hn =>
    obtain rfl := Except.ok.inj h
    have has := declares_boundsFrom htypes hnames 0
    obtain ⟨hf, hcall⟩ := declares_chooseName hreturn hname hsupplied hn
    have hne : Integral.boundsFrom 0 d.arguments ≠ [] := by
      intro he
      exact hdim (by simp [he])
    have hline := hf.name.newline_not_mem
    exact ⟨rfl, ⟨hf, hcall, has, hne, rfl⟩, isText_written hreturn hline has,
      isText_withDefaults hreturn hline has _⟩

lemma guard_of_make {headerName : String} {o : GenerationOptions}
    (h : GenerationOptions.make headerName = .ok o) :
    IsIdentifier o.guard.toList ∧ ∀ c ∈ o.guard.toList, c ∉ ['\\', '\n', '\r', '*'] := by
  have hcheck : Identifier.check o.guard = .ok () := by
    rw [GenerationOptions.make] at h
    split_ifs at h
    dsimp only at h
    split at h
    · cases h
    · next hc =>
      obtain rfl := Except.ok.inj h
      exact hc
  exact ⟨Identifier.isIdentifier_of_check hcheck, Identifier.not_mem_of_check hcheck⟩

lemma declared_of_entries {xs : List (Extent × Specifier × Declarator)} (has : ∀ a ∈ as, Declares a)
    (h : xs.map Prod.snd = as.map entry ++ [errorEntry t]) :
    xs.map (fun x => (declaredBy x.2).type.decayed.name) = as.map Argument.type ++ ["pointer"] ∧
    xs.map (fun x => (declaredBy x.2).name) = (as ++ [errorArgument t]).map Argument.name := by
  have hmap : ∀ f : Specifier × Declarator → String,
      xs.map (fun x => f x.2) = (as.map fun a => f (entry a)) ++ [f (errorEntry t)] := by
    intro f
    rw [show (fun x : Extent × Specifier × Declarator => f x.2) = f ∘ Prod.snd from rfl, ← List.map_map, h,
      List.map_append, List.map_map]
    rfl
  have htypes : (as.map fun a => (declaredBy (entry a)).type.decayed.name) = as.map Argument.type :=
    List.map_congr_left fun a ha => by rw [declaredBy_entry, (plainTypes_name _ (has a ha).type).2]
  have hnames : (as.map fun a => (declaredBy (entry a)).name) = as.map Argument.name :=
    List.map_congr_left fun a _ => by rw [declaredBy_entry]
  rw [hmap fun x => (declaredBy x).type.decayed.name, hmap fun x => (declaredBy x).name, htypes, hnames,
    List.map_append]
  exact ⟨rfl, rfl⟩

/-- Whatever is generated for an integrand of plain types, its header declares the integral and nothing
else. A supplied name has to suit the return type, and the banner leaves no branch open. -/
theorem generated_header_reads_back {d : FunctionDeclaration} {name banner : Option String} {i : Integral}
    {headerName path : String} {o : GenerationOptions} {calls : Nat} {files s : Store} {backend : Backend}
    {code : GeneratedCode} (hreturn : d.returnType ∈ plainTypes)
    (htypes : ∀ a ∈ d.arguments, a.type ∈ plainTypes) (hname : IsIdentifier d.name.toList)
    (hnames : ∀ a ∈ d.arguments, a.name ≠ "" → IsIdentifier a.name.toList)
    (hsupplied : ∀ n ∈ name, Suits d.returnType n)
    (hbanner : ∀ b ∈ banner, ¬ ['*', '/'] <:+: b.toList ∧ ClosesBranches b)
    (hi : Integral.derive d name = .ok i) (ho : GenerationOptions.make headerName = .ok o)
    (hcode : generateCode .builtin files backend i { o with calls := calls, banner := banner } = .ok code)
    (hread : s.readText path = .ok code.header) :
    ∃ decl, SourceFile.load s path = .ok ⟨path, [decl]⟩ ∧ decl.name = i.name ∧
      decl.returnType = d.returnType ∧
      decl.argumentTypes = d.arguments.flatMap (fun a => [a.type, a.type]) ++ ["pointer"] ∧
      decl.argumentNames = i.declaration.argumentNames ∧ decl.hasBody s = false := by
  obtain ⟨hdim, hheader⟩ := Generation.header_of_generateCode hcode
  obtain ⟨harguments, hsignature, htext, hdefaults⟩ :=
    signatures_of_derive hreturn htypes hname hnames hsupplied hi hdim
  obtain ⟨hguard, hchars⟩ := guard_of_make ho
  have hbanner : ¬ ['*', '/'] <:+: (banner.getD "").toList ∧ ClosesBranches (banner.getD "") := by
    cases banner with
    | none => decide
    | some b => exact hbanner b rfl
  have hlast : ∀ c ∈ o.guard.toList.getLast?, c ≠ '\r' ∧ c ≠ '\\' := by
    intro c hc
    have hm := hchars c (List.mem_of_getLast? hc)
    exact ⟨fun he => hm (by simp [he]), fun he => hm (by simp [he])⟩
  obtain ⟨comment, blank, hcomment, hblank, hmask⟩ := mask_headerText hbanner.1 hbanner.2
    (fun hm => hchars _ hm (by decide)) hlast hdefaults htext
  obtain ⟨u, xs, e, hu, hxs, horigins⟩ := read_guarded hcomment hguard (fun hm => hchars _ hm (by decide))
    hblank hsignature hmask
  rw [hheader] at hread
  obtain ⟨decl, hload, hdecl, hret, hargs, hdeclared, hbody⟩ :=
    load_prototype hread hu horigins hreturn hsignature.head.name_ne
  obtain ⟨htypes', hnames'⟩ := declared_of_entries hsignature.arguments hxs
  refine ⟨decl, hload, hdecl, hret, ?_, ?_, hbody⟩
  · rw [hargs, htypes', types_boundsFrom]
  · rw [hdeclared, hnames', FunctionDeclaration.argumentNames, harguments]

lemma exists_of_any {α : Type} {x : Except Failure α} {p : α → Bool} (h : x.toOption.any p = true) :
    ∃ a, x = .ok a ∧ p a = true := by
  cases x with
  | error f => cases h
  | ok a => exact ⟨a, rfl, h⟩

theorem generated_header_reads_back_under_type_name :
    let d : FunctionDeclaration :=
      { name := "f", returnType := "long double",
        arguments := [⟨"unsigned long long", "x"⟩, ⟨"wchar_t", ""⟩] }
    ∃ i o code, Integral.derive d (some "size_t") = .ok i ∧ GenerationOptions.make "out/my-f.h" = .ok o ∧
      generateCode .builtin {} (.gsl .vegas) i
        { o with calls := 10, banner := some "a\n#ifdef __cplusplus\nb\n#endif" } = .ok code ∧
      let files : Store := { entries := [(["b.h"], .text code.header)] }
      ∃ decl, SourceFile.load files "b.h" = .ok ⟨"b.h", [decl]⟩ ∧ decl.name = "size_t" ∧
        decl.returnType = "long double" ∧
        decl.argumentTypes =
          ["unsigned long long", "unsigned long long", "wchar_t", "wchar_t", "pointer"] ∧
        decl.argumentNames = ["x_min", "x_max", "var_2_min", "var_2_max", "error"] ∧
        decl.hasBody files = false := by
  intro d
  have hok : (do
      let i ← Integral.derive d (some "size_t")
      let o ← GenerationOptions.make "out/my-f.h"
      generateCode .builtin {} (.gsl .vegas) i
        { o with calls := 10, banner := some "a\n#ifdef __cplusplus\nb\n#endif" }).toOption.any
          (fun _ => true) = true := by
    decide +kernel
  have hnames : (Integral.derive d (some "size_t")).toOption.any (fun i => i.name = "size_t" &&
      i.declaration.argumentNames = ["x_min", "x_max", "var_2_min", "var_2_max", "error"]) = true := by
    decide +kernel
  obtain ⟨code, h, -⟩ := exists_of_any hok
  obtain ⟨i, hi, h⟩ := bind_ok h
  obtain ⟨o, ho, hcode⟩ := bind_ok h
  rw [hi] at hnames
  obtain ⟨hn, ha⟩ : i.name = "size_t" ∧
      i.declaration.argumentNames = ["x_min", "x_max", "var_2_min", "var_2_max", "error"] := by
    simpa [Except.toOption] using hnames
  have hread : Store.readText { entries := [(["b.h"], .text code.header)] } "b.h" = .ok code.header := rfl
  obtain ⟨decl, hload, hname, hret, htypes, hargs, hbody⟩ :=
    generated_header_reads_back (by decide) (by decide) (by decide +kernel) (by decide +kernel)
      (by decide) (by decide +kernel) hi ho hcode hread
  exact ⟨i, o, code, hi, ho, hcode, decl, hload, hname.trans hn, hret, htypes, hargs.trans ha, hbody⟩

/-- The front end takes the name for a modifier, or the whole header for a branch that its banner opens. -/
theorem headers_lost_by_name_or_banner :
    let d : FunctionDeclaration := { name := "f", returnType := "int", arguments := [⟨"int", "x"⟩] }
    let stored (code : GeneratedCode) : Store := { entries := [(["a.h"], .text code.header)] }
    ∃ o, GenerationOptions.make "a.h" = .ok o ∧
      (∃ i code, Integral.derive d (some "noreturn") = .ok i ∧
        generateCode .builtin {} (.gsl .plain) i o = .ok code ∧
        (SourceFile.load (stored code) "a.h").isOk = false) ∧
      ∃ i code, Integral.derive d none = .ok i ∧
        generateCode .builtin {} (.gsl .plain) i { o with banner := some "\n#ifdef __cplusplus\n" } =
          .ok code ∧
        (SourceFile.load (stored code) "a.h").toOption.map SourceFile.declarations = some [] := by
  intro d stored
  have hname : (do
      let o ← GenerationOptions.make "a.h"
      let i ← Integral.derive d (some "noreturn")
      generateCode .builtin {} (.gsl .plain) i o).toOption.any
        (fun code => !(SourceFile.load (stored code) "a.h").isOk) = true := by
    decide +kernel
  have hbanner : (do
      let o ← GenerationOptions.make "a.h"
      let i ← Integral.derive d none
      generateCode .builtin {} (.gsl .plain) i
        { o with banner := some "\n#ifdef __cplusplus\n" }).toOption.any (fun code =>
          (SourceFile.load (stored code) "a.h").toOption.any (SourceFile.declarations · = [])) = true := by
    decide +kernel
  obtain ⟨code, h, hload⟩ := exists_of_any hname
  obtain ⟨o, ho, h⟩ := bind_ok h
  obtain ⟨i, hi, hcode⟩ := bind_ok h
  obtain ⟨code', h, hload'⟩ := exists_of_any hbanner
  obtain ⟨o', ho', h⟩ := bind_ok h
  obtain rfl : o = o' := Except.ok.inj (ho.symm.trans ho')
  obtain ⟨j, hj, hcode'⟩ := bind_ok h
  obtain ⟨file, hfile, hempty⟩ := exists_of_any hload'
  refine ⟨o, ho, ⟨i, code, hi, hcode, by simpa using hload⟩, j, code', hj, hcode', ?_⟩
  rw [hfile]
  exact congrArg some (of_decide_eq_true hempty)

end Quadrature
