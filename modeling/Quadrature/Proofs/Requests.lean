import Quadrature.Proofs.DeclarationText
import Quadrature.Proofs.Outputs
import Quadrature.Proofs.RepeatedIntegrals
import Quadrature.Proofs.SourceDependencies

/-! What a request comes to: the declaration that is integrated, which is the first of its name, and the includes
that its integral gets. -/

namespace Quadrature

open C

/-! ## The first declaration of a name -/

def C.SourceUnit.first? (u : SourceUnit) (name : String) : Option (Origin × Node) :=
  (originsOf [] u.items).find? fun o => o.2.spelling = name

lemma find?_of_forall₂ {α β : Type} {R : α → β → Prop} {p : α → Bool} {q : β → Bool} {xs : List α} {ys : List β}
    (h : List.Forall₂ R xs ys) (hpq : ∀ x y, R x y → p x = q y) :
    xs.find? p = none ∧ ys.find? q = none ∨ ∃ x y, xs.find? p = some x ∧ ys.find? q = some y ∧ R x y := by
  induction h with
  | nil => exact .inl ⟨rfl, rfl⟩
  | @cons x y xs ys hxy _ ih =>
    rw [List.find?_cons, List.find?_cons, hpq x y hxy]
    cases q y with
    | false => exact ih
    | true => exact .inr ⟨x, y, rfl, rfl, hxy⟩

lemma SourceFile.lookup_of_load {files : Store} {path : String} {s : SourceFile}
    (h : SourceFile.load files path = .ok s) :
    ∃ content u, files.readText path = .ok content ∧ SourceUnit.read (Guard.mask content) = .ok u ∧
      ∀ name, u.first? name = none ∧ s.lookup name = none ∨
        ∃ o d, u.first? name = some o ∧ s.lookup name = some d ∧ d.name = name ∧
          RecordedText files path content o d := by
  obtain ⟨content, u, hf, hu, -, hrec⟩ := recorded_of_load h
  have htext : List.Forall₂ (RecordedText files path content) (originsOf [] u.items) s.declarations :=
    ((List.forall₂_and_left _ _).mpr ⟨covers_originsOf hu, hrec⟩).imp
      fun o d ho => recordedText_of_covers hf ho.2 ho.1
  refine ⟨content, u, hf, hu, fun name => ?_⟩
  have hnames : ∀ o d, RecordedText files path content o d →
      decide (o.2.spelling = name) = decide (d.name = name) := by
    intro o d ho
    obtain ⟨-, rfl⟩ := Extraction.record_ok ho.recorded
    rfl
  rcases find?_of_forall₂ htext hnames with hnone | ⟨o, d, ho, hd, hod⟩
  · exact .inl hnone
  · exact .inr ⟨o, d, ho, hd, by simpa using List.find?_some hd, hod⟩

namespace Engine

variable {e : Engine} {files : Store} {time : String} {r : GenerateRequest}
  {d : FunctionDeclaration} {i j : Integral} {o : GenerationOptions} {f : Failure} {n : Node}

/-! ## The integral of a request -/

def ownInclude (path : String) (n : Nat) : List String :=
  if n = 0 then [] else [Text.join "/" ((Path.names path).rtake n)]

def includes (e : Engine) (r : GenerateRequest) : List String :=
  r.dependencies ++ ownInclude r.input (r.sourceComponents.getD e.settings.generation.sourceComponents)

lemma includes_own_file {c : FunctionDeclaration} {k : Nat} (hr : Extraction.record r.input n = .ok d) :
    d.addSourceDependency (k + 1) = .ok c ↔
      Text.trim (Text.join "/" ((Path.names r.input).rtake (k + 1))) ≠ "" ∧
        c = { d with dependencies := ownInclude r.input (k + 1) } := by
  obtain ⟨-, rfl⟩ := Extraction.record_ok hr
  rw [FunctionDeclaration.addSourceDependency_eq_ok_iff rfl, ownInclude, if_neg (Nat.succ_ne_zero k)]
  exact and_iff_right (Nat.succ_pos k)

lemma arity_of_record (hr : Extraction.record r.input n = .ok d) : d.arity = n.parameterNames.length := by
  obtain ⟨hc, rfl⟩ := Extraction.record_ok hr
  simp [FunctionDeclaration.arity, hc]

lemma integral_eq_ok_iff (hr : Extraction.record r.input n = .ok d) :
    e.integral r d = .ok i ↔ ∃ j, Integral.derive d r.integralName = .ok j ∧
      (∀ x ∈ e.includes r, Text.trim x ≠ "") ∧ i = j.including (e.includes r) := by
  simp only [integral, bind_eq_ok_iff, Integral.addDependencies_eq_ok_iff, includes]
  refine exists_congr fun j => and_congr_right fun hj => ?_
  rw [(Integral.derive_eq_ok hj).2.2.2, List.nil_append]
  cases r.sourceComponents.getD e.settings.generation.sourceComponents with
  | zero =>
    simp only [Nat.lt_irrefl, if_false, ownInclude, if_true, List.append_nil]
    constructor
    · rintro ⟨_, ⟨h, rfl⟩, hi⟩
      exact ⟨h, (Except.ok.inj hi).symm⟩
    · rintro ⟨h, rfl⟩
      exact ⟨_, ⟨h, rfl⟩, rfl⟩
  | succ k =>
    simp only [Nat.zero_lt_succ, if_true, bind_eq_ok_iff, includes_own_file hr,
      Integral.addDependencies_eq_ok_iff]
    have hown : (∀ x ∈ ownInclude r.input (k + 1), Text.trim x ≠ "") ↔
        Text.trim (Text.join "/" ((Path.names r.input).rtake (k + 1))) ≠ "" := by
      simp [ownInclude]
    rw [List.forall_mem_append, hown]
    constructor
    · rintro ⟨_, ⟨h, rfl⟩, _, ⟨hk, rfl⟩, -, rfl⟩
      exact ⟨⟨h, hk⟩, rfl⟩
    · rintro ⟨⟨h, hk⟩, rfl⟩
      exact ⟨_, ⟨h, rfl⟩, _, ⟨hk, rfl⟩, hown.mpr hk, rfl⟩

/-- Nothing is amiss with a request but, perhaps, with the function that it names. -/
structure Accepts (e : Engine) (time : String) (r : GenerateRequest) : Prop where
  named : ∀ name ∈ r.integralName, Identifier.IsName name
  included : ∀ x ∈ e.includes r, Text.trim x ≠ ""
  options : ∃ o, e.options time r (withExtension r.outputBase e.settings.output.headerExtension) = .ok o

lemma Accepts.integral (h : e.Accepts time r) (hr : Extraction.record r.input n = .ok d) :
    ∃ i, e.integral r d = .ok i ∧ i.integrand = d ∧ i.dimensions = d.arity := by
  obtain ⟨j, hj⟩ : ∃ j, Integral.derive d r.integralName = .ok j := Integral.exists_derive_eq_ok_iff.mpr h.named
  have hn : j.dimensions = d.arity := Integral.dimensions_of_derive hj
  exact ⟨_, (integral_eq_ok_iff hr).mpr ⟨j, hj, h.included, rfl⟩, (Integral.derive_eq_ok hj).2.1, hn⟩

/-! ## Backends that need a definition -/

section

variable (hd : integrand files r = .ok d) (hi : e.integral r d = .ok i)
  (ho : e.options time r (withExtension r.outputBase e.settings.output.headerExtension) = .ok o)
include hd hi ho

lemma draft_eq_error_iff :
    e.draft files time r = .error f ↔
      generateCode e.templates files (r.backend.getD e.settings.generation.backend) i o = .error f := by
  simp only [draft, hd, hi, ho, bind, Except.bind]
  cases generateCode e.templates files (r.backend.getD e.settings.generation.backend) i o with
  | error g => simp
  | ok code => simp [pure, Except.pure]

lemma draft_of_generateCode_ok {code : GeneratedCode}
    (hc : generateCode e.templates files (r.backend.getD e.settings.generation.backend) i o = .ok code) :
    ∃ t, e.draft files time r = .ok t := by
  simp only [draft, hd, hi, ho, hc, bind, Except.bind]
  exact ⟨_, rfl⟩

end

lemma whileDoing_error {α : Type} {a : Activity} {x : Except Failure α} (h : Failure.whileDoing a x = .error f) :
    ∃ c, f = .during a c := by
  cases x with
  | error c => exact ⟨c, (Except.error.inj h).symm⟩
  | ok x => cases h

lemma write_error {t : Draft} (h : (Draft.write t files).2 = .error f) : ∃ a c, f = .during a c := by
  rw [Draft.write] at h
  split at h
  · next made g hm =>
    obtain rfl := Except.error.inj h
    rw [makeParent] at hm
    split at hm
    · cases congrArg Prod.snd hm
    · split_ifs at hm
      · cases congrArg Prod.snd hm
      · exact ⟨_, whileDoing_error (congrArg Prod.snd hm)⟩
  · split at h
    · next hw =>
      obtain rfl := Except.error.inj h
      exact ⟨_, whileDoing_error hw⟩
    · split at h
      · next hw =>
        obtain rfl := Except.error.inj h
        exact ⟨_, whileDoing_error hw⟩
      · cases h

lemma generate_eq_noDefinition_iff {name : String} :
    e.generate files time r = (files, .error (.noDefinition name)) ↔
      e.draft files time r = .error (.noDefinition name) := by
  rw [generate]
  cases hd : e.draft files time r with
  | error f => simp
  | ok t =>
    refine ⟨fun h => ?_, fun h => by cases h⟩
    obtain ⟨a, c, hf⟩ := write_error (congrArg Prod.snd h)
    cases hf

end Engine

namespace Generation

lemma generateCode_openCl_of_prototype {files : Store} {i : Integral} (h : i.integrand.hasBody files = false)
    (templates : TemplateSet) (o : GenerationOptions) :
    generateCode templates files .openCl i o = .error (.noDefinition i.integrand.name) := by
  simp only [generateCode, openClCode, definitionText_error h]
  rfl

lemma render_ne_noDefinition (templates : TemplateSet) (t : TemplateName) (context : Template.Scope) (name : String) :
    templates.render t context ≠ .error (.noDefinition name) := by
  rw [TemplateSet.render]
  split <;> simp

lemma bind_ne_error {α β : Type} {f : Failure} {x : Except Failure α} {g : α → Except Failure β}
    (hx : x ≠ .error f) (hg : ∀ a, g a ≠ .error f) : (x >>= g) ≠ .error f := by
  cases x with
  | error f' => exact fun h => hx (congrArg Except.error (Except.error.inj h))
  | ok a => exact hg a

lemma generateCode_openCl_ne_noDefinition {files : Store} {i : Integral} (h : i.integrand.hasBody files = true)
    (templates : TemplateSet) (o : GenerationOptions) (name : String) :
    generateCode templates files .openCl i o ≠ .error (.noDefinition name) := by
  obtain ⟨text, -, ht⟩ := definitionText_ok h
  have hdimensions : checkDimensions i ≠ .error (.noDefinition name) := by
    rw [checkDimensions]
    split_ifs <;> simp
  rw [generateCode, openClCode]
  refine bind_ne_error (by simp [ht]) fun _ => bind_ne_error hdimensions fun _ => ?_
  refine bind_ne_error (render_ne_noDefinition _ _ _ _) fun _ => ?_
  refine bind_ne_error (render_ne_noDefinition _ _ _ _) fun _ => ?_
  exact bind_ne_error (render_ne_noDefinition _ _ _ _) fun _ => by simp [pure, Except.pure]

lemma generateCode_openCl_of_definition {files : Store} {i : Integral} (h : i.integrand.hasBody files = true)
    (hi : i.dimensions ≠ 0) (o : GenerationOptions) : ∃ code, generateCode .builtin files .openCl i o = .ok code :=
  generateCode_accepted (by simp [Refused, hi, h]) o

end Generation

open Engine Generation

/-- A device needs the definition of the integrand, and looks for it in the first declaration of the name only. A
run fails for lack of a definition exactly if that one is a prototype, whether or not the definition comes later and
whatever the templates are; if it is the definition, of a function with parameters, there is code from the built-in
templates. -/
theorem device_takes_first_declaration {e : Engine} {files : Store} {time : String} {r : GenerateRequest}
    {s : SourceFile} (hs : SourceFile.load files r.input = .ok s) (ha : e.Accepts time r)
    (hb : r.backend.getD e.settings.generation.backend = .openCl) :
    ∃ content u, files.readText r.input = .ok content ∧ SourceUnit.read (Guard.mask content) = .ok u ∧
      (e.generate files time r = (files, .error (.noDefinition r.function)) ↔
        ∃ n, u.first? r.function = some (.prototype, n)) ∧
      (e.templates = .builtin → ∀ n, u.first? r.function = some (.definition, n) → n.parameterNames ≠ [] →
        ∃ t, e.draft files time r = .ok t) := by
  obtain ⟨content, u, hf, hu, hrel⟩ := SourceFile.lookup_of_load hs
  refine ⟨content, u, hf, hu, ?_⟩
  rw [generate_eq_noDefinition_iff]
  rcases hrel r.function with ⟨hfirst, hl⟩ | ⟨⟨origin, n⟩, d, hfirst, hl, hname, hod⟩
  · have hdraft : e.draft files time r = .error (.unknownFunction r.function r.input) := by
      simp only [draft, integrand, hs, hl, bind, Except.bind]
    rw [hdraft, hfirst]
    simp
  have hd : integrand files r = .ok d := by simp only [integrand, hs, hl]
  obtain ⟨i, hi, rfl, hn⟩ := ha.integral hod.recorded
  obtain ⟨o, ho⟩ := ha.options
  rw [hfirst]
  cases origin with
  | prototype =>
    have hbody : i.integrand.hasBody files = false := by
      simpa using hod.body
    have hc := generateCode_openCl_of_prototype hbody e.templates o
    rw [hname, ← hb] at hc
    rw [(draft_eq_error_iff hd hi ho).mpr hc]
    simp
  | definition =>
    have hbody : i.integrand.hasBody files = true := hod.body.mpr rfl
    refine ⟨⟨fun h => ?_, by simp⟩, fun ht m hm hparameters => ?_⟩
    · rw [draft_eq_error_iff hd hi ho, hb] at h
      exact absurd h (generateCode_openCl_ne_noDefinition hbody _ o _)
    · obtain ⟨-, rfl⟩ := Prod.mk.inj (Option.some.inj hm)
      have hdimensions : i.dimensions ≠ 0 := by
        rw [hn, arity_of_record hod.recorded]
        exact fun h => hparameters (List.length_eq_zero_iff.mp h)
      obtain ⟨code, hc⟩ := generateCode_openCl_of_definition hbody hdimensions o
      rw [← hb, ← ht] at hc
      exact draft_of_generateCode_ok hd hi ho hc

theorem device_misses_definition_behind_prototype :
    let e : Engine := ⟨{}, .builtin⟩
    let definition := "double f(double x) \x7b return x; \x7d\n"
    let files : Store :=
      { entries := [(["f.c"], .text definition), (["g.c"], .text ("double f(double x);\n" ++ definition))] }
    let r : GenerateRequest := { input := "f.c", function := "f", outputBase := "out", backend := some .openCl }
    (∃ s, SourceFile.load files "g.c" = .ok s ∧
      s.declarations.map (fun d => (d.name, d.hasBody files)) = [("f", false), ("f", true)]) ∧
    (∃ t, e.draft files "noon" r = .ok t) ∧
    e.generate files "noon" { r with input := "g.c" } = (files, .error (.noDefinition "f")) := by
  intro e definition files r
  have haccepts : ∀ input ∈ ["f.c", "g.c"], Accepts e "noon" { r with input := input } := by
    intro input hinput
    obtain ⟨o, ho⟩ := Option.isSome_iff_exists.mp (show (e.options "noon" r (withExtension r.outputBase
      e.settings.output.headerExtension)).toOption.isSome = true by decide +kernel)
    refine ⟨by simp [r], ?_, o, eq_ok_of_toOption ho⟩
    revert input
    decide
  -- the first function of a file, as the text of the file shows it
  have hfirst : ∀ (input content : String) (u : SourceUnit) (p : Origin × Node → Bool),
      files.readText input = .ok content → SourceUnit.read (Guard.mask content) = .ok u →
      (files.readText input).toOption.any (fun c => (SourceUnit.read (Guard.mask c)).toOption.any fun v =>
        (v.first? "f").any p) = true → ∃ o, u.first? "f" = some o ∧ p o = true := by
    intro input content u p hf hu h
    rw [hf, Except.toOption, Option.any_some, hu, Except.toOption, Option.any_some] at h
    exact (Option.any_eq_true _ _).mp h
  have hdefinition : (SourceFile.load files "f.c").toOption.isSome = true ∧
      (files.readText "f.c").toOption.any (fun c => (SourceUnit.read (Guard.mask c)).toOption.any fun v =>
        (v.first? "f").any fun o => o.1 = .definition ∧ o.2.parameterNames ≠ []) = true := by
    decide +kernel
  have hprototype : (SourceFile.load files "g.c").toOption.any (fun s =>
        s.declarations.map (fun d => (d.name, d.hasBody files)) = [("f", false), ("f", true)]) = true ∧
      (files.readText "g.c").toOption.any (fun c => (SourceUnit.read (Guard.mask c)).toOption.any fun v =>
        (v.first? "f").any fun o => o.1 = .prototype) = true := by
    decide +kernel
  obtain ⟨s, hs, hbodies⟩ := (Option.any_eq_true _ _).mp hprototype.1
  refine ⟨⟨s, eq_ok_of_toOption hs, of_decide_eq_true hbodies⟩, ?_, ?_⟩
  · obtain ⟨s, hs⟩ := Option.isSome_iff_exists.mp hdefinition.1
    obtain ⟨_, u, hf, hu, -, hcode⟩ :=
      device_takes_first_declaration (r := r) (eq_ok_of_toOption hs) (haccepts "f.c" (by simp)) rfl
    obtain ⟨⟨_, n⟩, ho, hp⟩ := hfirst "f.c" _ u _ hf hu hdefinition.2
    obtain ⟨rfl, hn⟩ := of_decide_eq_true hp
    exact hcode rfl n ho hn
  · obtain ⟨_, u, hf, hu, hiff, -⟩ :=
      device_takes_first_declaration (r := { r with input := "g.c" }) (eq_ok_of_toOption hs)
        (haccepts "g.c" (by simp)) rfl
    obtain ⟨⟨_, n⟩, ho, hp⟩ := hfirst "g.c" _ u _ hf hu hprototype.2
    obtain rfl := of_decide_eq_true hp
    exact hiff.mpr ⟨n, ho⟩

end Quadrature
