import Quadrature.Proofs.CodeParts

/-! When code is generated, and how its pieces fit together. -/

namespace Quadrature

namespace Generation

open Template Templates

/-! ## What the templates ask for and what the contexts offer -/

def baseShapes : Shapes :=
  [(["integral", "name"], .text), (["integral", "signature"], .text),
    (["integral", "signature_with_defaults"], .text), (["integral", "n_dimensions"], .whole),
    (["integral", "lower_bounds"], .list .text), (["integral", "upper_bounds"], .list .text),
    (["integral", "include_dependencies"], .list .text), (["integral", "integrand", "name"], .text),
    (["header_include_name"], .text), (["include_guard"], .text), (["n_calls"], .whole),
    (["banner"], .text)]

def gslShapes : Shapes := baseShapes ++ [(["algorithm"], .text), (["vegas_warmup_calls"], .whole)]

def kernelShapes : Shapes :=
  baseShapes ++ [(["integrand_text"], .text), (["bounds_type"], .text), (["kernel_name"], .text),
    (["work_items"], .whole)]

def openClShapes : Shapes := kernelShapes ++ [(["program_lines"], .list .text)]

lemma fits_texts (xs : List String) : (Shape.list .text).Fits (.texts xs) := by
  refine ⟨_, rfl, ?_⟩
  intro v hv
  obtain ⟨x, -, rfl⟩ := List.mem_map.mp hv
  exact ⟨x, rfl⟩

lemma holds_baseContext (i : Integral) (o : GenerationOptions) (extra : Scope) :
    (baseContext i o ++ extra).Holds baseShapes := by
  simp only [Scope.Holds, baseShapes, List.forall_mem_cons]
  exact ⟨⟨_, rfl, _, rfl⟩, ⟨_, rfl, _, rfl⟩, ⟨_, rfl, _, rfl⟩, ⟨_, rfl, _, rfl⟩, ⟨_, rfl, fits_texts _⟩,
    ⟨_, rfl, fits_texts _⟩, ⟨_, rfl, fits_texts _⟩, ⟨_, rfl, _, rfl⟩, ⟨_, rfl, _, rfl⟩, ⟨_, rfl, _, rfl⟩,
    ⟨_, rfl, _, rfl⟩, ⟨_, rfl, _, rfl⟩, List.forall_mem_nil _⟩

lemma holds_gslContext (i : Integral) (o : GenerationOptions) (a : GslAlgorithm) :
    (gslContext i o a).Holds gslShapes := by
  refine List.forall_mem_append.mpr ⟨holds_baseContext i o _, ?_⟩
  simp only [List.forall_mem_cons]
  exact ⟨⟨_, rfl, _, rfl⟩, ⟨_, rfl, _, rfl⟩, List.forall_mem_nil _⟩

lemma holds_openClContext (i : Integral) (o : GenerationOptions) (text : String) (extra : Scope) :
    (openClContext i o text ++ extra).Holds kernelShapes := by
  rw [openClContext, List.append_assoc]
  refine List.forall_mem_append.mpr ⟨holds_baseContext i o _, ?_⟩
  simp only [List.forall_mem_cons]
  exact ⟨⟨_, rfl, _, rfl⟩, ⟨_, rfl, _, rfl⟩, ⟨_, rfl, _, rfl⟩, ⟨_, rfl, _, rfl⟩, List.forall_mem_nil _⟩

def sourceContext (i : Integral) (o : GenerationOptions) (text : String) (bodies : List String) : Scope :=
  openClContext i o text ++ [("program_lines", .texts bodies)]

lemma holds_sourceContext (i : Integral) (o : GenerationOptions) (text : String) (bodies : List String) :
    (sourceContext i o text bodies).Holds openClShapes := by
  refine List.forall_mem_append.mpr ⟨holds_openClContext i o text _, ?_⟩
  simp only [List.forall_mem_cons]
  exact ⟨⟨_, rfl, fits_texts _⟩, List.forall_mem_nil _⟩

inductive Serves : TemplateName → Scope → Shapes → Prop
  | gslHeader (i o a) : Serves .header (gslContext i o a) gslShapes
  | gslSource (i o a) : Serves .gslSource (gslContext i o a) gslShapes
  | kernel (i o text) : Serves .kernel (openClContext i o text) kernelShapes
  | openClHeader (i o text bodies) : Serves .header (sourceContext i o text bodies) openClShapes
  | openClSource (i o text bodies) : Serves .openClSource (sourceContext i o text bodies) openClShapes

variable {name : TemplateName} {scope : Scope} {shapes : Shapes}

lemma Serves.holds (h : Serves name scope shapes) : scope.Holds shapes := by
  cases h with
  | gslHeader i o a => exact holds_gslContext i o a
  | gslSource i o a => exact holds_gslContext i o a
  | kernel i o text => simpa using holds_openClContext i o text []
  | openClHeader i o text bodies => exact holds_sourceContext i o text bodies
  | openClSource i o text bodies => exact holds_sourceContext i o text bodies

lemma Serves.shaped (h : Serves name scope shapes) :
    areShaped shapes (TemplateSet.builtin.get name) = true := by
  cases h <;> decide

lemma render_builtin {text : String} (h : renderAll scope (TemplateSet.builtin.get name) = some text) :
    TemplateSet.builtin.render name scope = .ok text := by
  rw [TemplateSet.render, Template.render, h]

lemma Serves.renders (h : Serves name scope shapes) :
    ∃ text, TemplateSet.builtin.render name scope = .ok text := by
  obtain ⟨text, ht⟩ := renderAll_some _ scope shapes h.holds h.shaped
  exact ⟨text, render_builtin ht⟩

/-! ## Success and failure -/

variable {i : Integral} {o : GenerationOptions} {a : GslAlgorithm} {files : Store}
  {text header source program : String}

lemma checkDimensions_ok (h : i.dimensions ≠ 0) : checkDimensions i = .ok () := if_neg h

lemma gslCode_ok (hi : i.dimensions ≠ 0)
    (hh : TemplateSet.builtin.render .header (gslContext i o a) = .ok header)
    (hs : TemplateSet.builtin.render .gslSource (gslContext i o a) = .ok source) :
    gslCode .builtin i o a = .ok ⟨header, source⟩ := by
  simp only [gslCode, checkDimensions_ok hi, hh, hs]
  rfl

lemma openClCode_ok (ht : definitionText files i.integrand = .ok text) (hi : i.dimensions ≠ 0)
    (hp : TemplateSet.builtin.render .kernel (openClContext i o text) = .ok program)
    (hh : TemplateSet.builtin.render .header (sourceContext i o text (literalLines program)) = .ok header)
    (hs : TemplateSet.builtin.render .openClSource (sourceContext i o text (literalLines program)) =
      .ok source) :
    openClCode .builtin files i o = .ok ⟨header, source⟩ := by
  rw [sourceContext] at hh hs
  simp only [openClCode, ht, checkDimensions_ok hi, bind, Except.bind, hp, hh, hs]
  rfl

lemma definitionText_ok {d : FunctionDeclaration} (h : d.hasBody files = true) :
    ∃ text, d.text? files = some text ∧ definitionText files d = .ok text := by
  cases ht : d.text? files with
  | none => simp [FunctionDeclaration.hasBody, ht] at h
  | some text => exact ⟨text, rfl, by simp [definitionText, ht, h]⟩

lemma definitionText_error {d : FunctionDeclaration} (h : d.hasBody files = false) :
    definitionText files d = .error (.noDefinition d.name) := by
  cases ht : d.text? files with
  | none => simp [definitionText, ht]
  | some text => simp [definitionText, ht, h]

def Refused (files : Store) (backend : Backend) (i : Integral) : Prop :=
  i.dimensions = 0 ∨ backend = .openCl ∧ i.integrand.hasBody files = false

lemma generateCode_refused {backend : Backend} (h : Refused files backend i) (o : GenerationOptions) :
    ∃ f : Failure, generateCode .builtin files backend i o = .error f ∧ f.kind = .validation := by
  cases backend with
  | gsl a =>
    have hi : i.dimensions = 0 := by simpa [Refused] using h
    have hc : checkDimensions i = .error (.noArguments i.integrand.name) := if_pos hi
    exact ⟨_, by simp only [generateCode, gslCode, hc]; rfl, rfl⟩
  | openCl =>
    cases hb : i.integrand.hasBody files with
    | false => exact ⟨_, by simp only [generateCode, openClCode, definitionText_error hb]; rfl, rfl⟩
    | true =>
      have hi : i.dimensions = 0 := by simpa [Refused, hb] using h
      have hc : checkDimensions i = .error (.noArguments i.integrand.name) := if_pos hi
      obtain ⟨text, -, ht⟩ := definitionText_ok hb
      exact ⟨_, by simp only [generateCode, openClCode, ht, hc]; rfl, rfl⟩

lemma generateCode_accepted {backend : Backend} (h : ¬ Refused files backend i) (o : GenerationOptions) :
    ∃ code, generateCode .builtin files backend i o = .ok code := by
  have hi : i.dimensions ≠ 0 := fun hz => h (.inl hz)
  cases backend with
  | gsl a =>
    obtain ⟨header, hh⟩ := (Serves.gslHeader i o a).renders
    obtain ⟨source, hs⟩ := (Serves.gslSource i o a).renders
    exact ⟨_, gslCode_ok hi hh hs⟩
  | openCl =>
    have hb : i.integrand.hasBody files = true := by
      cases hb : i.integrand.hasBody files with
      | false => exact absurd (.inr ⟨rfl, hb⟩) h
      | true => rfl
    obtain ⟨text, -, ht⟩ := definitionText_ok hb
    obtain ⟨program, hp⟩ := (Serves.kernel i o text).renders
    obtain ⟨header, hh⟩ := (Serves.openClHeader i o text (literalLines program)).renders
    obtain ⟨source, hs⟩ := (Serves.openClSource i o text (literalLines program)).renders
    exact ⟨_, openClCode_ok ht hi hp hh hs⟩

end Generation

open Generation Template

/-- Code is refused only for what it is asked to do. The templates never fail: on every branch of them,
taken or not, each value they ask for is there and has the shape they need. -/
theorem generateCode_fails_iff (files : Store) (backend : Backend) (i : Integral) (o : GenerationOptions) :
    ((∃ f, generateCode .builtin files backend i o = .error f) ↔
      i.dimensions = 0 ∨ backend = .openCl ∧ i.integrand.hasBody files = false) ∧
    (∀ f, generateCode .builtin files backend i o = .error f → f.kind = .validation) ∧
    ∀ name scope shapes, Serves name scope shapes →
      scope.Holds shapes ∧ areShaped shapes (TemplateSet.builtin.get name) = true ∧
        ∃ text, TemplateSet.builtin.render name scope = .ok text := by
  refine ⟨⟨?_, ?_⟩, ?_, fun name scope shapes h => ⟨h.holds, h.shaped, h.renders⟩⟩
  · rintro ⟨f, hf⟩
    by_contra h
    obtain ⟨code, hc⟩ := generateCode_accepted h o
    cases hc.symm.trans hf
  · intro h
    obtain ⟨f, hf, -⟩ := generateCode_refused h o
    exact ⟨f, hf⟩
  · intro f hf
    by_cases h : Refused files backend i
    · obtain ⟨g, hg, hk⟩ := generateCode_refused h o
      obtain rfl : g = f := Except.error.inj (hg.symm.trans hf)
      exact hk
    · obtain ⟨code, hc⟩ := generateCode_accepted h o
      cases hc.symm.trans hf

/-! ## The pieces of the code -/

namespace Integral

lemma getElem?_alternate {α : Type} (xs : List α) (k : Nat) : (alternate xs)[k]? = xs[2 * k]? := by
  induction xs using alternate.induct generalizing k with
  | case1 => rfl
  | case2 x => cases k <;> rfl
  | case3 x y xs ih =>
    cases k with
    | zero => rfl
    | succ k =>
      rw [alternate, List.getElem?_cons_succ, ih k, show 2 * (k + 1) = 2 * k + 1 + 1 by omega,
        List.getElem?_cons_succ, List.getElem?_cons_succ]

lemma length_alternate {α : Type} (xs : List α) : (alternate xs).length = (xs.length + 1) / 2 := by
  induction xs using alternate.induct with
  | case1 => simp [alternate]
  | case2 x => simp [alternate]
  | case3 x y xs ih =>
    rw [alternate, List.length_cons, ih, List.length_cons, List.length_cons]
    omega

lemma length_boundsFrom (as : List Argument) (index : Nat) : (boundsFrom index as).length = 2 * as.length := by
  induction as generalizing index with
  | nil => rfl
  | cons a as ih =>
    rw [boundsFrom, List.length_append, ih, List.length_cons, bounds, List.length_cons, List.length_singleton]
    omega

structure Built (i : Integral) (bounds : List Argument) (error : Argument) : Prop where
  arguments : i.declaration.arguments = bounds ++ [error]
  named : ∀ b ∈ bounds, b.name ≠ ""
  errorNamed : error.name ≠ ""
  defaults : i.defaults = List.replicate bounds.length none ++ [some nullPointer]
  dimensions : bounds.length = 2 * i.dimensions

variable {d : FunctionDeclaration} {name : Option String} {i j : Integral} {deps : List String}
  {bounds : List Argument} {error : Argument}

lemma named_boundsFrom (as : List Argument) (index : Nat) : ∀ b ∈ boundsFrom index as, b.name ≠ "" := by
  induction as generalizing index with
  | nil => simp [boundsFrom]
  | cons a as ih =>
    intro b hb
    rcases List.mem_append.mp hb with hb | hb
    · simp only [Integral.bounds, List.mem_cons, List.not_mem_nil, or_false] at hb
      rcases hb with rfl | rfl <;> simp [String.append_eq_empty_iff]
    · exact ih (index + 1) b hb

lemma derive_eq_ok (h : derive d name = .ok i) :
    chooseName d name = .ok i.name ∧ i.integrand = d ∧ i.returnType = d.returnType ∧ i.dependencies = [] := by
  rw [derive] at h
  split at h
  · cases h
  · next n hn =>
    obtain rfl := Except.ok.inj h
    exact ⟨hn, rfl, rfl, rfl⟩

lemma built_of_derive (h : derive d name = .ok i) :
    Built i (boundsFrom 0 d.arguments) ⟨d.returnType ++ " *", errorName⟩ := by
  rw [derive] at h
  split at h
  · cases h
  · obtain rfl := Except.ok.inj h
    have hl := length_boundsFrom d.arguments 0
    exact ⟨rfl, named_boundsFrom _ _, (by decide : errorName ≠ ""), rfl, by simp only [hl]; omega⟩

def including (i : Integral) (deps : List String) : Integral :=
  { i with declaration := { i.declaration with dependencies := deps } }

lemma addDependencies_eq_ok_iff : j.addDependencies deps = .ok i ↔
    (∀ x ∈ deps, Text.trim x ≠ "") ∧ i = j.including (j.dependencies ++ deps) := by
  induction deps generalizing j with
  | nil =>
    rw [Integral.addDependencies, Except.ok.injEq, List.append_nil]
    exact ⟨fun h => ⟨by simp, h.symm⟩, fun h => h.2.symm⟩
  | cons x xs ih =>
    rw [addDependencies, addDependency, FunctionDeclaration.addDependency]
    by_cases hx : Text.trim x = ""
    · simp [hx]
    · simp [hx, ih, including, dependencies]

lemma addDependencies_eq (h : j.addDependencies deps = .ok i) :
    ∃ ds, i = { j with declaration := { j.declaration with dependencies := ds } } :=
  ⟨_, (addDependencies_eq_ok_iff.mp h).2⟩

lemma chooseName_of_addDependencies (hj : derive d name = .ok j) (h : j.addDependencies deps = .ok i) :
    chooseName d name = .ok i.name ∧ i.integrand = d := by
  obtain ⟨hchoose, hintegrand, -⟩ := derive_eq_ok hj
  obtain ⟨ds, rfl⟩ := addDependencies_eq h
  exact ⟨hchoose, hintegrand⟩

lemma Built.addDependencies (hj : Built j bounds error) (h : j.addDependencies deps = .ok i) :
    Built i bounds error := by
  obtain ⟨ds, rfl⟩ := addDependencies_eq h
  exact ⟨hj.arguments, hj.named, hj.errorNamed, hj.defaults, hj.dimensions⟩

lemma Built.length_bounds (h : Built i bounds error) :
    i.lowerBounds.length = i.dimensions ∧ i.upperBounds.length = i.dimensions := by
  have hl : i.boundNames.length = 2 * i.dimensions := by
    have := h.dimensions
    simp only [boundNames, FunctionDeclaration.argumentNames, h.arguments, List.length_take, List.length_map,
      List.length_append]
    omega
  rw [lowerBounds, upperBounds, length_alternate, length_alternate, List.length_drop, hl]
  omega

lemma getElem?_bounds {k : Nat} (hk : k < i.dimensions) :
    i.lowerBounds[k]? = i.declaration.argumentNames[2 * k]? ∧
      i.upperBounds[k]? = i.declaration.argumentNames[2 * k + 1]? := by
  rw [lowerBounds, upperBounds, getElem?_alternate, getElem?_alternate, List.getElem?_drop, boundNames,
    List.getElem?_take_of_lt (by omega), List.getElem?_take_of_lt (by omega), Nat.add_comm 1]
  exact ⟨rfl, rfl⟩

lemma zipWith_withDefault (as : List Argument) :
    as.zipWith withDefault (List.replicate as.length none) = as.map fun a => a.type ++ " " ++ a.name := by
  induction as with
  | nil => rfl
  | cons a as ih => rw [List.length_cons, List.replicate_succ, List.zipWith_cons_cons, ih]; rfl

lemma join_concat (separator : String) (xs : List String) :
    ∃ s, ∀ x, Text.join separator (xs ++ [x]) = s ++ x := by
  induction xs with
  | nil => exact ⟨"", fun x => by simp [Text.join]⟩
  | cons y ys ih =>
    obtain ⟨s, hs⟩ := ih
    refine ⟨y ++ separator ++ s, fun x => ?_⟩
    rw [List.cons_append, Text.join.eq_3 _ _ _ (by simp), hs x]
    simp only [String.append_assoc]

lemma Built.signatures (h : Built i bounds error) :
    ∃ s, i.signature = s ++ ")" ∧ i.signatureWithDefaults = s ++ " = NULL)" := by
  have hwritten : bounds.map Argument.written = bounds.map fun a => a.type ++ " " ++ a.name :=
    List.map_congr_left fun a ha => if_neg (h.named a ha)
  obtain ⟨s, hs⟩ := join_concat ", " (bounds.map fun a => a.type ++ " " ++ a.name)
  refine ⟨i.returnType ++ " " ++ i.name ++ "(" ++ (s ++ (error.type ++ " " ++ error.name)), ?_, ?_⟩
  · rw [signature, FunctionDeclaration.signature, FunctionDeclaration.parameterList, h.arguments, List.map_append,
      hwritten, List.map_singleton, hs, Argument.written, if_neg h.errorNamed]
    rfl
  · rw [signatureWithDefaults, h.arguments, h.defaults, List.zipWith_append (by simp), zipWith_withDefault,
      List.zipWith_cons_cons, List.zipWith_nil_left, hs, withDefault, nullPointer]
    simp [String.append_assoc]

end Integral

namespace Generation

open Templates

lemma Describes.renders_definition (h : Describes scope i) {l : String} {ls : List String} :
    Renders scope (line [Templates.signature] ++ code (l :: ls)) [i.signature ++ "\n" ++ l ++ "\n"] := by
  refine ⟨_, renderAll_append (renderAll_line (renderAll_cons h.render_signature renderAll_nil))
    (renderAll_code _), ?_⟩
  have hsplit : i.signature ++ "" ++ "\n" ++ plainLines (l :: ls) =
      (i.signature ++ "\n" ++ l ++ "\n") ++ plainLines ls := by
    simp [plainLines, String.append_assoc]
  rw [hsplit]
  exact inOrder_append _ _

def definitionHead (i : Integral) : String := i.signature ++ "\n" ++ "\x7b" ++ "\n"

def gslParts (i : Integral) : List String :=
  [wrapperText i, definitionHead i, boundsText "lower_bounds" i.dimensions i.lowerBounds,
    boundsText "upper_bounds" i.dimensions i.upperBounds]

lemma renders_gslSource (i : Integral) (o : GenerationOptions) (a : GslAlgorithm) :
    Renders (gslContext i o a) gslSource (gslParts i) := by
  have hd : Describes (gslContext i o a) i := describes_baseContext i o _
  have hs := holds_gslContext i o a
  have hfunction : Renders (gslContext i o a) gslFunction
      [definitionHead i, boundsText "lower_bounds" i.dimensions i.lowerBounds,
        boundsText "upper_bounds" i.dimensions i.upperBounds] := by
    refine ((((((Renders.append (Renders.append hd.renders_definition
      (renders_text (hd.render_bounds hd.lowerBounds))) (renders_text (hd.render_bounds hd.upperBounds))).before
      hs ?_).before hs ?_).before hs ?_).before hs ?_).before hs ?_).before hs ?_
    all_goals decide
  exact ((renders_text hd.render_wrapper).behind hs (by decide)).append hfunction

def boundsTypeName (i : Integral) : String := Identifier.pascalCase i.name ++ "Bounds"

def kernelParts (i : Integral) (text : String) : List String :=
  [text ++ "\n", structText (boundsTypeName i) i.dimensions, "    double x[" ++ toString i.dimensions ++ "];\n",
    "        double value = " ++ callText i.integrand.name i.dimensions ++ ";\n"]

lemma renders_kernel (i : Integral) (o : GenerationOptions) (text : String) :
    Renders (openClContext i o text) kernel (kernelParts i text) := by
  have hd : Describes (openClContext i o text) i := describes_baseContext i o _
  have hs := (Serves.kernel i o text).holds
  have htext : renderAll (openClContext i o text) (line [put ["integrand_text"]]) = some (text ++ "\n") := by
    rw [renderAll_line (renderAll_cons (render_put rfl) renderAll_nil), String.append_empty]
  have hloop : Renders (openClContext i o text) kernelLoop
      ["        double value = " ++ callText i.integrand.name i.dimensions ++ ";\n"] :=
    ((renders_text (hd.render_callLine _)).behind hs (by decide)).before hs (by decide)
  refine ((((((((((renders_text htext).behind hs ?_).before hs ?_).append
    (renders_text (hd.render_struct rfl))).before hs ?_).before hs ?_).before hs ?_).append
    (renders_text (hd.render_arrayLine _))).before hs ?_).append hloop).before hs ?_
  all_goals decide

def openClParts (i : Integral) (bodies : List String) : List String :=
  [structText (boundsTypeName i) i.dimensions, programText i.name bodies, definitionHead i,
    assignmentsText "lower" i.lowerBounds, assignmentsText "upper" i.upperBounds]

lemma renders_openClSource (i : Integral) (o : GenerationOptions) (text : String) (bodies : List String) :
    Renders (sourceContext i o text bodies) openClSource (openClParts i bodies) := by
  have hd : Describes (sourceContext i o text bodies) i := describes_baseContext i o _
  have hs := holds_sourceContext i o text bodies
  have hvariables : Renders (sourceContext i o text bodies) openClVariables
      [definitionHead i, assignmentsText "lower" i.lowerBounds, assignmentsText "upper" i.upperBounds] := by
    refine (Renders.append (Renders.append (((((hd.renders_definition).before hs ?_).before hs ?_).before hs
      ?_).before hs ?_) (renders_text (render_assignments hd.lowerBounds)))
      (renders_text (render_assignments hd.upperBounds))).before hs ?_
    all_goals decide
  refine (((((((((((renders_text (hd.render_struct rfl)).behind hs ?_).before hs ?_).append
    (renders_text (hd.render_program rfl))).before hs ?_).before hs ?_).append hvariables).before hs ?_).before
    hs ?_).before hs ?_).before hs ?_).before hs ?_
  all_goals decide

end Generation

/-- The pieces of generated code fit together, for every backend: the definition and both prototypes have
one signature, the integrand is called with every coordinate of the point, and the arrays of bounds hold
the bounds of every dimension. -/
theorem generated_parts_agree {d : FunctionDeclaration} {name : Option String} {deps : List String}
    {i j : Integral} (hj : Integral.derive d name = .ok j) (hi : j.addDependencies deps = .ok i)
    (hn : i.dimensions ≠ 0) (files : Store) (o : GenerationOptions) :
    (∃ s, i.signature = s ++ ")" ∧ i.signatureWithDefaults = s ++ " = NULL)") ∧
    i.lowerBounds.length = i.dimensions ∧ i.upperBounds.length = i.dimensions ∧
    (∀ k < i.dimensions, i.lowerBounds[k]? = i.declaration.argumentNames[2 * k]? ∧
      i.upperBounds[k]? = i.declaration.argumentNames[2 * k + 1]?) ∧
    (∀ a, ∃ source, generateCode .builtin files (.gsl a) i o =
        .ok ⟨headerText (o.banner.getD "") o.guard i.signatureWithDefaults i.signature, source⟩ ∧
      InOrder (gslParts i) source) ∧
    (i.integrand.hasBody files = true → ∃ text program source, i.integrand.text? files = some text ∧
      generateCode .builtin files .openCl i o =
        .ok ⟨headerText (o.banner.getD "") o.guard i.signatureWithDefaults i.signature, source⟩ ∧
      TemplateSet.builtin.render .kernel (openClContext i o text) = .ok program ∧
      InOrder (kernelParts i text) program ∧ InOrder (openClParts i (literalLines program)) source) := by
  have hb := (Integral.built_of_derive hj).addDependencies hi
  refine ⟨hb.signatures, hb.length_bounds.1, hb.length_bounds.2, fun k hk => Integral.getElem?_bounds hk, ?_, ?_⟩
  · intro a
    obtain ⟨source, hs, hparts⟩ := renders_gslSource i o a
    exact ⟨source, gslCode_ok hn (render_builtin (provides_baseContext i o _).render_header) (render_builtin hs),
      hparts⟩
  · intro hbody
    obtain ⟨text, htext, hdef⟩ := definitionText_ok hbody
    obtain ⟨program, hp, hkernel⟩ := renders_kernel i o text
    obtain ⟨source, hs, hparts⟩ := renders_openClSource i o text (literalLines program)
    exact ⟨text, program, source, htext, openClCode_ok hdef hn (render_builtin hp)
      (render_builtin (provides_baseContext i o _).render_header) (render_builtin hs), render_builtin hp, hkernel,
      hparts⟩

theorem generated_parts_agree_unnamed_argument :
    let d : FunctionDeclaration :=
      { name := "f", returnType := "double", arguments := [⟨"double", ""⟩, ⟨"float", "y"⟩],
        remembered := some "double f(double a, float y) \x7b return a * y; \x7d" }
    let o : GenerationOptions := { headerName := "f.h", guard := "F_H", calls := 10, banner := some "b" }
    ∃ i j, Integral.derive d none = .ok j ∧ j.addDependencies ["f.h"] = .ok i ∧ i.dimensions = 2 ∧
      i.lowerBounds = ["var_1_min", "y_min"] ∧ i.upperBounds = ["var_1_max", "y_max"] ∧
      (∃ s, i.signature = s ++ ")" ∧ i.signatureWithDefaults = s ++ " = NULL)") ∧
      (∃ source, generateCode .builtin {} (.gsl .miser) i o =
        .ok ⟨headerText "b" "F_H" i.signatureWithDefaults i.signature, source⟩ ∧ InOrder (gslParts i) source) ∧
      ∃ code, generateCode .builtin {} .openCl i o = .ok code := by
  intro d o
  have hbody : d.hasBody {} = true := by decide +kernel
  obtain ⟨i, h, hd, hn, hlower, hupper⟩ : ∃ i : Integral,
      (do let j ← Integral.derive d none; j.addDependencies ["f.h"]) = .ok i ∧ i.integrand = d ∧
        i.dimensions = 2 ∧ i.lowerBounds = ["var_1_min", "y_min"] ∧ i.upperBounds = ["var_1_max", "y_max"] :=
    ⟨_, rfl, rfl, by decide, by decide, by decide⟩
  obtain ⟨j, hj, hi⟩ := bind_ok h
  obtain ⟨hs, -, -, -, hgsl, hcl⟩ := generated_parts_agree hj hi (by omega) {} o
  obtain ⟨-, -, source, -, hcode, -⟩ := hcl (hd ▸ hbody)
  exact ⟨i, j, hj, hi, hn, hlower, hupper, hs, hgsl .miser, _, hcode⟩

end Quadrature
