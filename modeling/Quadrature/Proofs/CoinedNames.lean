import Quadrature.Proofs.Hygiene
import Quadrature.Proofs.IncludeGuards
import Quadrature.Proofs.UnderscoreRuns

/-! The names that code for a device declares. The names of the kernel and of the integral are identifiers whenever
the name of the integrand is one. The type of the bounds loses the underscores in front of its name, and with a digit
behind them its name is none. -/

namespace Quadrature.Identifier

open Text

def IsAsciiIdentifier (s : String) : Prop :=
  ∃ c cs, s.toList = c :: cs ∧ (c.isAlpha = true ∨ c = '_') ∧ ∀ d ∈ cs, d.isAlphanum = true ∨ d = '_'

def DigitFirst (s : String) : Prop := (s.toList.dropWhile (· == '_')).head?.any Char.isDigit = true

instance : DecidablePred DigitFirst := fun s =>
  inferInstanceAs (Decidable ((s.toList.dropWhile (· == '_')).head?.any Char.isDigit = true))

variable {s t : String} {c : Char} {cs : List Char}

lemma isAsciiIdentifier_iff : IsAsciiIdentifier s ↔
    (∃ c ∈ s.toList.head?, c.isAlpha = true ∨ c = '_') ∧ ∀ c ∈ s.toList, isWordChar c = true := by
  have hstart : ∀ c : Char, c.isAlpha = true ∨ c = '_' → isWordChar c = true := by
    rintro c (hc | rfl)
    · exact isWordChar_of_isLetter ((isLetter_eq c).trans hc)
    · decide
  simp only [IsAsciiIdentifier, ← isWordChar_iff]
  constructor
  · rintro ⟨c, cs, hs, hc, hcs⟩
    rw [hs]
    exact ⟨⟨c, rfl, hc⟩, List.forall_mem_cons.mpr ⟨hstart c hc, hcs⟩⟩
  · rintro ⟨⟨c, hc, hletter⟩, hall⟩
    obtain ⟨cs, hs⟩ := List.head?_eq_some_iff.mp hc
    rw [hs] at hall
    exact ⟨c, cs, hs, hletter, (List.forall_mem_cons.mp hall).2⟩

instance : DecidablePred IsAsciiIdentifier := fun s =>
  decidable_of_iff ((s.toList.head?.any fun c => c.isAlpha || c == '_') = true ∧ s.toList.all isWordChar = true)
    (by simp [isAsciiIdentifier_iff, Option.any_eq_true])

lemma IsAsciiIdentifier.append (h : IsAsciiIdentifier s) (ht : t.toList.all isWordChar = true) :
    IsAsciiIdentifier (s ++ t) := by
  obtain ⟨c, cs, hs, hc, hcs⟩ := h
  refine ⟨c, cs ++ t.toList, by rw [String.toList_append, hs, List.cons_append], hc, ?_⟩
  exact List.forall_mem_append.mpr ⟨hcs, fun d hd => isWordChar_iff.mp (List.all_eq_true.mp ht d hd)⟩

lemma isAsciiIdentifier_of_check (h : check s = .ok ()) : IsAsciiIdentifier s := by
  obtain ⟨c, cs, hs, hc, hcs⟩ := check_eq_ok_iff_ascii.mp h
  exact ⟨c, cs, hs, .inl hc, hcs⟩

lemma not_digitFirst_of_check (h : check s = .ok ()) : ¬ DigitFirst s := by
  obtain ⟨c, cs, hs, hc, -⟩ := check_eq_ok_iff_ascii.mp h
  rw [← isLetter_eq] at hc
  have hclass : c ≠ '_' ∧ c.isDigit = false := forall_wordChar
    (P := fun c => isLetter c = true → c ≠ '_' ∧ c.isDigit = false) (by decide +kernel) (isWordChar_of_isLetter hc) hc
  rw [DigitFirst, hs, List.dropWhile_cons_of_neg (by simpa using hclass.1), List.head?_cons, Option.any_some, hclass.2]
  exact Bool.false_ne_true

lemma digitFirst_append (h : ¬ DigitFirst t) : DigitFirst (s ++ t) ↔ DigitFirst s := by
  rw [DigitFirst, DigitFirst, String.toList_append, List.dropWhile_append]
  cases hs : s.toList.dropWhile (· == '_') with
  | nil => exact iff_of_false h Bool.false_ne_true
  | cons c cs => rfl

lemma isWordChar_case (h : isWordChar c = true) :
    isWordChar c.toUpper = true ∧ isWordChar c.toLower = true ∧
      (c ≠ '_' → ((c.toUpper.isAlpha = true ∨ c.toUpper = '_') ↔ c.isDigit = false)) :=
  forall_wordChar (P := fun c => isWordChar c = true → isWordChar c.toUpper = true ∧ isWordChar c.toLower = true ∧
    (c ≠ '_' → ((c.toUpper.isAlpha = true ∨ c.toUpper = '_') ↔ c.isDigit = false))) (by decide +kernel) h h

lemma isWordChar_capital {w : List Char} (h : ∀ c ∈ w, isWordChar c = true) :
    ∀ c ∈ capital w, isWordChar c = true := by
  cases w with
  | nil => exact h
  | cons c cs =>
    obtain ⟨hc, hcs⟩ := List.forall_mem_cons.mp h
    refine List.forall_mem_cons.mpr ⟨(isWordChar_case hc).1, fun d hd => ?_⟩
    obtain ⟨e, he, rfl⟩ := List.mem_map.mp hd
    exact (isWordChar_case (hcs e he)).2.1

lemma Parts.isWordChar_pascal {n : Parts} (h : ∀ c ∈ n.text, isWordChar c = true) :
    ∀ c ∈ n.pascal, isWordChar c = true := by
  have hinner : ∀ c ∈ n.inner, isWordChar c = true := fun c hc =>
    h c (List.mem_append_left _ (List.mem_append_right _ hc))
  obtain ⟨hfirst, hlater⟩ := List.forall_mem_append.mp hinner
  refine List.forall_mem_append.mpr ⟨isWordChar_capital hfirst, fun c hc => ?_⟩
  obtain ⟨x, hx, hc⟩ := List.mem_flatMap.mp hc
  rcases List.mem_append.mp hc with hc | hc
  · rw [List.eq_of_mem_replicate hc]
    decide
  · refine isWordChar_capital (fun d hd => ?_) c hc
    exact hlater d (List.mem_flatMap.mpr ⟨x, hx, List.mem_append_right _ hd⟩)

lemma Parts.digitFirst_iff {n : Parts} (hn : n.text = s.toList) (hc : n.first = c :: cs) :
    DigitFirst s ↔ c.isDigit = true := by
  rw [DigitFirst, ← hn, n.dropWhile_text, Parts.inner, hc]
  simp

lemma isAsciiIdentifier_pascalCase_iff (hs : ∀ c ∈ s.toList, isWordChar c = true)
    (ht : IsAsciiIdentifier t) : IsAsciiIdentifier (pascalCase s ++ t) ↔ ¬ DigitFirst s := by
  rcases exists_parts s.toList with ⟨n, hn⟩ | h
  · obtain ⟨c, cs, hc⟩ := List.exists_cons_of_ne_nil n.isPart.nonempty
    have hfirst : c ∈ s.toList ∧ c ≠ '_' := by
      have hm : c ∈ n.first := hc ▸ List.mem_cons_self
      refine ⟨hn ▸ ?_, fun he => n.isPart.bare (he ▸ hm)⟩
      exact List.mem_append_left _ (List.mem_append_right _ (List.mem_append_left _ hm))
    have hword := Parts.isWordChar_pascal (n := n) (hn ▸ hs)
    obtain ⟨ds, hds⟩ : ∃ ds, n.pascal = c.toUpper :: ds := by
      rw [Parts.pascal, hc]
      exact ⟨_, rfl⟩
    have htext : (pascalCase s ++ t).toList = c.toUpper :: (ds ++ t.toList) := by
      rw [String.toList_append, pascalCase_of_parts hn fun c hc => toNat_lt_of_isWordChar (hs c hc), hds,
        List.cons_append]
    have hall : ∀ d ∈ c.toUpper :: (ds ++ t.toList), isWordChar d = true := by
      rw [hds] at hword
      exact List.forall_mem_append.mpr ⟨hword, (isAsciiIdentifier_iff.mp ht).2⟩
    rw [isAsciiIdentifier_iff, htext, and_iff_left hall, Parts.digitFirst_iff hn hc, Bool.not_eq_true,
      ← (isWordChar_case (hs c hfirst.1)).2.2 hfirst.2]
    simp
  · rw [pascalCase_of_underscores h, String.empty_append]
    refine iff_of_true ht ?_
    have hdrop : s.toList.dropWhile (· == '_') = [] := by
      rw [List.dropWhile_eq_nil_iff]
      intro c hc
      rw [h c hc, beq_self_eq_true]
    simp [DigitFirst, hdrop]

end Quadrature.Identifier

namespace Quadrature

open Identifier Generation Hygiene

lemma Integral.chooseName_isAsciiIdentifier {d : FunctionDeclaration} {name : Option String} {n : String}
    (hd : IsAsciiIdentifier d.name) (h : chooseName d name = .ok n) :
    IsAsciiIdentifier n ∧ (DigitFirst n ↔ name = none ∧ DigitFirst d.name) := by
  cases name with
  | none =>
    obtain rfl := Except.ok.inj h
    refine ⟨hd.append (by decide), ?_⟩
    rw [digitFirst_append (by decide), and_iff_right rfl]
  | some m =>
    rw [chooseName] at h
    split at h
    · next hm =>
      obtain rfl := Except.ok.inj h
      exact ⟨isAsciiIdentifier_of_check hm, iff_of_false (not_digitFirst_of_check hm) (by simp)⟩
    · cases h

lemma Hygiene.isAsciiIdentifier_of_mem_kernelBody (i : Integral) :
    ∀ n ∈ declaredIn (kernelBody i), IsAsciiIdentifier n := by
  have hnames : declaredIn (kernelBody i) = ["bounds", "seed", "samples", "sums", "squares", "gid", "state", "sum",
      "square", "x", "i", "d", "value"] := rfl
  rw [hnames]
  decide

/-- All names that are coined for a device are identifiers, but for the type of the bounds of an integral without
a name of its own whose integrand has a digit behind the underscores in front. -/
theorem coined_names_are_identifiers_iff {d : FunctionDeclaration} {name : Option String} {deps : List String}
    {i j : Integral} (hd : IsAsciiIdentifier d.name) (hj : Integral.derive d name = .ok j)
    (hi : j.addDependencies deps = .ok i) :
    IsAsciiIdentifier i.name ∧ IsAsciiIdentifier (i.name ++ "_kernel") ∧
    (IsAsciiIdentifier (pascalCase i.name ++ "Bounds") ↔ ¬ (name = none ∧ DigitFirst d.name)) ∧
    declaredIn (kernelCode i) =
      (pascalCase i.name ++ "Bounds") :: (i.name ++ "_kernel") :: declaredIn (kernelBody i) ∧
    (∀ n ∈ declaredIn (kernelBody i), IsAsciiIdentifier n) ∧
    ∀ files o, i.dimensions ≠ 0 → d.hasBody files = true → ∃ text program code, d.text? files = some text ∧
      generateCode .builtin files .openCl i o = .ok code ∧
      TemplateSet.builtin.render .kernel (openClContext i o text) = .ok program ∧
      InOrder [contents (kernelCode i)] program ∧
      InOrder [programText i.name (literalLines program), definitionHead i] code.source := by
  obtain ⟨hchoose, hintegrand⟩ := Integral.chooseName_of_addDependencies hj hi
  obtain ⟨hname, hdigit⟩ := Integral.chooseName_isAsciiIdentifier hd hchoose
  refine ⟨hname, hname.append (by decide), ?_, rfl, isAsciiIdentifier_of_mem_kernelBody i, ?_⟩
  · rw [isAsciiIdentifier_pascalCase_iff (isAsciiIdentifier_iff.mp hname).2 (by decide), hdigit]
  · intro files o hn hbody
    obtain ⟨text, htext, hdef⟩ := definitionText_ok hbody
    obtain ⟨program, hp, hkernel⟩ := renders_kernelCode i o text
    obtain ⟨source, hs, hparts⟩ := renders_openClSource i o text (literalLines program)
    rw [← hintegrand] at hdef
    exact ⟨text, program, _, htext, openClCode_ok hdef hn (render_builtin hp)
      (render_builtin (provides_baseContext i o _).render_header) (render_builtin hs), render_builtin hp, hkernel,
      hparts.sublist (.cons _ (.cons_cons _ (.cons_cons _ (List.nil_sublist _))))⟩

theorem bounds_type_starts_with_digit :
    let d : FunctionDeclaration :=
      { name := "_2d", returnType := "double", arguments := [⟨"double", "x"⟩],
        remembered := some "double _2d(double x) \x7b return x; \x7d" }
    let o : GenerationOptions := { headerName := "d.h", guard := "D_H", calls := 10, banner := none }
    (∃ i program code, Integral.derive d none = .ok i ∧ generateCode .builtin {} .openCl i o = .ok code ∧
      InOrder [contents (kernelCode i)] program ∧ "2dIntegralBounds" ∈ declaredIn (kernelCode i) ∧
      ¬ IsAsciiIdentifier "2dIntegralBounds") ∧
    ∃ i, Integral.derive d (some "area_of_2d") = .ok i ∧ pascalCase i.name ++ "Bounds" = "AreaOf2dBounds" ∧
      IsAsciiIdentifier (pascalCase i.name ++ "Bounds") := by
  intro d o
  have hd : IsAsciiIdentifier d.name := by decide
  have hbody : d.hasBody {} = true := by decide +kernel
  obtain ⟨i, hi, hn, hname⟩ : ∃ i : Integral, Integral.derive d none = .ok i ∧ i.dimensions ≠ 0 ∧
      pascalCase i.name ++ "Bounds" = "2dIntegralBounds" := ⟨_, rfl, by decide, by decide +kernel⟩
  obtain ⟨k, hk, hown⟩ : ∃ k : Integral, Integral.derive d (some "area_of_2d") = .ok k ∧
      pascalCase k.name ++ "Bounds" = "AreaOf2dBounds" := ⟨_, rfl, by decide +kernel⟩
  obtain ⟨-, -, hiff, hdeclared, -, hcode⟩ :=
    coined_names_are_identifiers_iff hd hi (rfl : i.addDependencies [] = .ok i)
  obtain ⟨-, -, hgiven, -⟩ := coined_names_are_identifiers_iff hd hk (rfl : k.addDependencies [] = .ok k)
  obtain ⟨-, program, code, -, hgenerated, -, hprogram, -⟩ := hcode {} o hn hbody
  have hdigit : DigitFirst d.name := by decide
  refine ⟨⟨i, program, code, hi, hgenerated, hprogram, ?_, ?_⟩, k, hk, hown, hgiven.mpr (by simp)⟩
  · rw [hdeclared, hname]
    exact List.mem_cons_self
  · rw [← hname, hiff]
    exact not_not_intro ⟨rfl, hdigit⟩

end Quadrature
