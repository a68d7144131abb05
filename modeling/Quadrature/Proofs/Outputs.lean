import Quadrature.Engine
import Quadrature.Proofs.Extraction
import Quadrature.Proofs.Stores

/-! The files that generation leaves behind. Nothing is written before the code is complete; then the
header is written, and the source after it. -/

namespace Quadrature.Engine

open Store

variable {e : Engine} {files done made : Store} {time : String} {r : GenerateRequest} {d : Draft}
  {f : Failure} {out : GeneratedFiles} {path content : String} {p : Place}

lemma eq_ok_of_toOption {α : Type} {x : Except Failure α} {a : α} (h : x.toOption = some a) :
    x = .ok a := by
  cases x with
  | error f => cases h
  | ok b => exact congrArg Except.ok (Option.some.inj h)

lemma eq_error_of_isOk {α : Type} {x : Except Failure α} (h : x.isOk = false) :
    ∃ f, x = .error f := by
  cases x with
  | error f => exact ⟨f, rfl⟩
  | ok a => cases h

lemma eq_of_snd_eq {α β : Type} {x : α × β} {b : β} (h : x.2 = b) : x = (x.1, b) := by
  rw [← h]

def Produces (e : Engine) (files : Store) (time : String) (r : GenerateRequest) (headerPath : String)
    (code : GeneratedCode) : Prop :=
  ∃ integrand i o, Engine.integrand files r = .ok integrand ∧ e.integral r integrand = .ok i ∧
    e.options time r headerPath = .ok o ∧
    generateCode e.templates files (r.backend.getD e.settings.generation.backend) i o = .ok code

lemma draft_ok (h : e.draft files time r = .ok d) :
    d.headerPath = withExtension r.outputBase e.settings.output.headerExtension ∧
      d.sourcePath = withExtension r.outputBase e.settings.output.sourceExtension ∧
      e.Produces files time r d.headerPath d.code := by
  rw [draft] at h
  obtain ⟨integrand, hf, h⟩ := bind_ok h
  obtain ⟨i, hi, h⟩ := bind_ok h
  obtain ⟨o, ho, h⟩ := bind_ok h
  obtain ⟨code, hc, h⟩ := bind_ok h
  obtain rfl := Except.ok.inj h
  exact ⟨rfl, rfl, integrand, i, o, hf, hi, ho, hc⟩

lemma sameFiles_makeParent (files : Store) (path : String) : SameFiles files (makeParent files path).1 := by
  rw [makeParent]
  split
  · exact .refl files
  · split_ifs
    · exact .refl files
    · exact sameFiles_makeDirectories files _

lemma writeFile_cases (files : Store) (path content : String) :
    (∃ c, writeFile files path content = .error (.during (.writingFile path) (.io c))) ∨
      ∃ p, files.locate path = .ok p ∧ files.at? p ≠ some .directory ∧
        writeFile files path content = .ok (files.put p (.text content)) := by
  rw [writeFile]
  cases hw : files.writeText path content with
  | error c => exact .inl ⟨c, rfl⟩
  | ok s =>
    obtain ⟨p, hl, hd, rfl⟩ := writeText_ok hw
    exact .inr ⟨p, hl, hd, rfl⟩

/-- How far the writing of a draft gets: to no file, to the header, or to both files. -/
inductive Leaves (d : Draft) (files done : Store) : Except Failure GeneratedFiles → Prop
  | nothing {f : Failure} : SameFiles files done → Leaves d files done (.error f)
  | header {p : Place} {c : IoError} : Grows files done → done.locate d.headerPath = .ok p →
      done.at? p = some (.text d.code.header) → (∀ x, x ≠ p → done.file? x = files.file? x) →
      Leaves d files done (.error (.during (.writingFile d.sourcePath) (.io c)))
  | both {p q : Place} : Grows files done → done.locate d.headerPath = .ok p →
      done.locate d.sourcePath = .ok q → done.at? q = some (.text d.code.source) →
      (p ≠ q → done.at? p = some (.text d.code.header)) →
      (∀ x, x ≠ p → x ≠ q → done.file? x = files.file? x) →
      Leaves d files done (.ok ⟨d.headerPath, d.sourcePath⟩)

lemma leaves_header {c : IoError} (hm : SameFiles files made) (hl : made.locate d.headerPath = .ok p)
    (hd : made.at? p ≠ some .directory) :
    Leaves d files (made.put p (.text d.code.header))
      (.error (.during (.writingFile d.sourcePath) (.io c))) := by
  have hg : Grows made (made.put p (.text d.code.header)) := grows_put hd _
  refine .header (hm.toGrows.trans hg) (hg.locate hl) (at?_put_self hd) fun x hx => ?_
  rw [file?_put_of_ne hx, hm.files]

lemma leaves_both {half : Store} {q : Place} (hm : SameFiles files made)
    (hl : made.locate d.headerPath = .ok p) (hd : made.at? p ≠ some .directory)
    (hh : half = made.put p (.text d.code.header)) (hl' : half.locate d.sourcePath = .ok q)
    (hd' : half.at? q ≠ some .directory) :
    Leaves d files (half.put q (.text d.code.source)) (.ok ⟨d.headerPath, d.sourcePath⟩) := by
  have hg : Grows made half := hh ▸ grows_put hd _
  have hg' : Grows half (half.put q (.text d.code.source)) := grows_put hd' _
  refine .both (hm.toGrows.trans (hg.trans hg')) (hg'.locate (hg.locate hl)) (hg'.locate hl')
    (at?_put_self hd') (fun hne => ?_) fun x hp hq => ?_
  · rw [at?_put_of_ne hne, hh, at?_put_self hd]
  · rw [file?_put_of_ne hq, hh, file?_put_of_ne hp, hm.files]

lemma leaves_write (d : Draft) (files : Store) :
    Leaves d files (Draft.write d files).1 (Draft.write d files).2 := by
  have hs := sameFiles_makeParent files d.headerPath
  rw [Draft.write]
  split
  · next hm =>
    rw [hm] at hs
    exact .nothing hs
  · next made hm =>
    rw [hm] at hs
    rcases writeFile_cases made d.headerPath d.code.header with ⟨c, hw⟩ | ⟨p, hl, hd, hw⟩
    · simp only [hw]
      exact .nothing hs
    · simp only [hw]
      rcases writeFile_cases (made.put p (.text d.code.header)) d.sourcePath d.code.source with
        ⟨c, hw⟩ | ⟨q, hl', hd', hw⟩
      · simp only [hw]
        exact leaves_header hs hl hd
      · simp only [hw]
        exact leaves_both hs hl hd rfl hl' hd'

lemma generate_cases (e : Engine) (files : Store) (time : String) (r : GenerateRequest) :
    (∃ f, e.generate files time r = (files, .error f)) ∨
      ∃ d, e.draft files time r = .ok d ∧
        Leaves d files (e.generate files time r).1 (e.generate files time r).2 := by
  rw [generate]
  cases hd : e.draft files time r with
  | error f => exact .inl ⟨f, rfl⟩
  | ok d => exact .inr ⟨d, rfl, leaves_write d files⟩

lemma file?_of_text (h : files.at? p = some (.text content)) :
    files.file? p = some (.text content) := by
  simp [file?, h]

lemma at?_of_file? (h : files.file? p = some (.text content)) :
    files.at? p = some (.text content) :=
  (Option.filter_eq_some_iff.mp h).1

lemma input_of_produces {code : GeneratedCode} (h : e.Produces files time r path code) :
    ∃ p content, files.locate r.input = .ok p ∧ files.at? p = some (.text content) := by
  obtain ⟨integrand, _, _, hf, -⟩ := h
  rw [Engine.integrand] at hf
  split at hf
  · cases hf
  · next file hload =>
    obtain ⟨content, hread⟩ := SourceFile.readText_of_load hload
    obtain ⟨p, hl, hat⟩ := locate_of_entry (entry_of_readText hread)
    exact ⟨p, content, hl, hat⟩

lemma not_mem_of_isExtension {x : String} (h : Settings.isExtension x = true) : '/' ∉ x.toList := by
  simp only [Settings.isExtension, Bool.and_eq_true, Bool.not_eq_true', List.contains_eq_mem,
    decide_eq_false_iff_not] at h
  exact h.1.2

lemma extensions_of_check {s : Settings} (h : s.check = .ok ()) :
    '/' ∉ s.output.headerExtension.toList ∧ '/' ∉ s.output.sourceExtension.toList := by
  rw [Settings.check] at h
  split_ifs at h with _ hh hs
  exact ⟨not_mem_of_isExtension (by simpa using hh), not_mem_of_isExtension (by simpa using hs)⟩

/-- After generation the source path holds the source. The header path holds the header unless both
paths lead to the same place, which with proper extensions means that the extensions are the same. -/
theorem generated_files_hold_code (h : e.generate files time r = (done, .ok out)) :
    ∃ d, e.draft files time r = .ok d ∧ e.Produces files time r out.header d.code ∧
      done.readText out.source = .ok d.code.source ∧
      (done.locate out.header ≠ done.locate out.source →
        done.readText out.header = .ok d.code.header) ∧
      (e.settings.check = .ok () → (done.locate out.header = done.locate out.source ↔
        e.settings.output.headerExtension = e.settings.output.sourceExtension)) := by
  rcases generate_cases e files time r with ⟨f, hf⟩ | ⟨d, hd, hleft⟩
  · rw [hf] at h
    cases h
  · rw [h] at hleft
    obtain ⟨hhp, hsp, hcode⟩ := draft_ok hd
    cases hleft with
    | @both p q _ hp hq hsource hheader _ =>
      refine ⟨d, hd, hcode, readText_of_locate hq hsource, ?_, ?_⟩
      · intro hne
        rw [hp, hq, ne_eq, Except.ok.injEq] at hne
        exact readText_of_locate hp (hheader hne)
      · intro hc
        have hdq : done.at? q ≠ some .directory := by simp [hsource]
        have hdp : done.at? p ≠ some .directory := by
          by_cases hpq : p = q
          · rwa [hpq]
          · simp [hheader hpq]
        obtain ⟨hx, hy⟩ := extensions_of_check hc
        rw [hp, hq, Except.ok.injEq]
        rw [hhp] at hp
        rw [hsp] at hq
        exact sibling_eq_iff hx hy hp hq hdp hdq

theorem equal_extensions_lose_header :
    let e : Engine := ⟨{ output := { headerExtension := "c", sourceExtension := "c" } }, .builtin⟩
    let files : Store := { entries := [(["f.h"], .text "double f(double x);\n")] }
    let r : GenerateRequest := { input := "f.h", function := "f", outputBase := "out" }
    ∃ (done : Store) (d : Draft), e.settings.check = .ok () ∧
      e.generate files "noon" r = (done, .ok ⟨"out.c", "out.c"⟩) ∧
      e.Produces files "noon" r "out.c" d.code ∧ done.readText "out.c" = .ok d.code.source ∧
      done.readText "out.c" ≠ .ok d.code.header := by
  intro e files r
  have hc : e.settings.check = .ok () := eq_ok_of_toOption (by decide +kernel)
  have hg : (e.generate files "noon" r).2 = .ok ⟨"out.c", "out.c"⟩ :=
    eq_ok_of_toOption (by decide +kernel)
  have h := eq_of_snd_eq hg
  have hne : (e.draft files "noon" r).toOption.any (fun d => d.code.source ≠ d.code.header) = true := by
    decide +kernel
  obtain ⟨d, hd, hcode, hsource, -⟩ := generated_files_hold_code h
  rw [hd] at hne
  refine ⟨_, d, hc, h, hcode, hsource, ?_⟩
  rw [hsource, ne_eq, Except.ok.injEq]
  exact of_decide_eq_true hne

/-- The integrand's file keeps its content unless one of the two output paths leads to it; then it
holds the code of that path. -/
theorem input_kept_or_replaced (e : Engine) (files : Store) (time : String) (r : GenerateRequest) :
    let done := (e.generate files time r).1
    done.entry r.input = files.entry r.input ∨
      ∃ d p, e.draft files time r = .ok d ∧ files.locate r.input = .ok p ∧
        (done.locate (withExtension r.outputBase e.settings.output.headerExtension) = .ok p ∧
            done.entry r.input = .ok (.text d.code.header) ∨
          done.locate (withExtension r.outputBase e.settings.output.sourceExtension) = .ok p ∧
            done.entry r.input = .ok (.text d.code.source)) := by
  intro done
  rcases generate_cases e files time r with ⟨f, hf⟩ | ⟨d, hd, hleft⟩
  · exact .inl (by rw [show done = files from congrArg Prod.fst hf])
  · obtain ⟨hhp, hsp, hcode⟩ := draft_ok hd
    obtain ⟨p, content, hl, hat⟩ := input_of_produces hcode
    rw [← hhp, ← hsp, entry_of_locate hl hat]
    have hkept (hg : Grows files done) (hp : done.file? p = files.file? p) :
        done.entry r.input = .ok (.text content) :=
      entry_of_locate (hg.locate hl) (at?_of_file? (hp.trans (file?_of_text hat)))
    generalize (e.generate files time r).2 = result at hleft
    cases hleft with
    | nothing hs => exact .inl (hkept hs.toGrows (hs.files p))
    | @header p' _ hg hp' hheader hrest =>
      by_cases h : p = p'
      · subst h
        exact .inr ⟨d, p, hd, hl, .inl ⟨hp', entry_of_locate (hg.locate hl) hheader⟩⟩
      · exact .inl (hkept hg (hrest p h))
    | @both p' q hg hp' hq hsource hheader hrest =>
      by_cases h : p = q
      · subst h
        exact .inr ⟨d, p, hd, hl, .inr ⟨hq, entry_of_locate (hg.locate hl) hsource⟩⟩
      · by_cases h' : p = p'
        · subst h'
          exact .inr ⟨d, p, hd, hl, .inl ⟨hp', entry_of_locate (hg.locate hl) (hheader h)⟩⟩
        · exact .inl (hkept hg (hrest p h' h))

theorem source_replaces_input :
    let e : Engine := ⟨{}, .builtin⟩
    let files : Store := { entries := [(["f.c"], .text "double f(double x);\n")] }
    let r : GenerateRequest := { input := "f.c", function := "f", outputBase := "f" }
    (e.generate files "noon" r).1.readText "f.c" ≠ files.readText "f.c" := by
  decide +kernel

/-- A run that fails leaves every file as it was, except for a header whose source could not be
written. -/
theorem failed_generation_keeps_files (h : e.generate files time r = (done, .error f)) :
    (∀ p, done.file? p = files.file? p) ∨
      ∃ d p c, e.draft files time r = .ok d ∧ f = .during (.writingFile d.sourcePath) (.io c) ∧
        done.locate d.headerPath = .ok p ∧ done.file? p = some (.text d.code.header) ∧
        ∀ q, q ≠ p → done.file? q = files.file? q := by
  rcases generate_cases e files time r with ⟨f', hf⟩ | ⟨d, hd, hleft⟩
  · rw [hf] at h
    cases h
    exact .inl fun _ => rfl
  · rw [h] at hleft
    cases hleft with
    | nothing hs => exact .inl hs.files
    | @header p c _ hp hheader hrest =>
      exact .inr ⟨d, p, c, hd, rfl, hp, file?_of_text hheader, hrest⟩

theorem header_stays_without_source :
    let e : Engine := ⟨{}, .builtin⟩
    let files : Store :=
      { entries := [(["f.h"], .text "double f(double x);\n"), (["out.c"], .directory)] }
    let r : GenerateRequest := { input := "f.h", function := "f", outputBase := "out" }
    (e.generate files "noon" r).2.isOk = false ∧ files.file? ["out.h"] = none ∧
      (e.generate files "noon" r).1.file? ["out.h"] ≠ none := by
  decide +kernel

theorem failed_generation_keeps_files_but_header :
    let e : Engine := ⟨{}, .builtin⟩
    let files : Store :=
      { entries := [(["f.h"], .text "double f(double x);\n"), (["out.c"], .directory)] }
    let r : GenerateRequest := { input := "f.h", function := "f", outputBase := "out" }
    ∃ done f d p c, e.generate files "noon" r = (done, .error f) ∧ e.draft files "noon" r = .ok d ∧
      f = .during (.writingFile d.sourcePath) (.io c) ∧ done.locate d.headerPath = .ok p ∧
      done.file? p = some (.text d.code.header) ∧ ∀ q, q ≠ p → done.file? q = files.file? q := by
  intro e files r
  have hnew : (e.generate files "noon" r).1.file? ["out.h"] ≠ files.file? ["out.h"] := by
    decide +kernel
  obtain ⟨f, hf⟩ := eq_error_of_isOk (show (e.generate files "noon" r).2.isOk = false by decide +kernel)
  have h := eq_of_snd_eq hf
  rcases failed_generation_keeps_files h with hsame | ⟨d, p, c, hrest⟩
  · exact absurd (hsame ["out.h"]) hnew
  · exact ⟨_, f, d, p, c, h, hrest⟩

end Quadrature.Engine
