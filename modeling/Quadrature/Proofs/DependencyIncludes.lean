import Quadrature.Proofs.Requests

/-! The includes of a generated source. What the integrand depends on is included in a block of its own, between the
includes of the libraries and the first line of code; the text around the block does not depend on it. -/

namespace Quadrature.Generation

open Template Templates

variable {scope : Scope} {i : Integral} {ds : List String}

/-! ## The text of the includes -/

def includeBlock (ds : List String) : String :=
  if ds = [] then "" else
    "\n/* Dependency includes */\n" ++ String.join (ds.map fun d => "#include \"" ++ d ++ "\"\n")

lemma includeBlock_eq_empty_iff : includeBlock ds = "" ↔ ds = [] := by
  rw [includeBlock]
  split_ifs with h
  · simp [h]
  · simp [h, String.append_eq_empty_iff]

lemma render_dependencyIncludes
    (h : scope.find? ["integral", "include_dependencies"] = some (.texts ds)) :
    renderAll scope dependencyIncludes = some (includeBlock ds) := by
  have heval : (Expr.path ["integral", "include_dependencies"]).eval scope = some (.list (ds.map .text)) := h
  have hline : ∀ k d, renderAll (("dependency", .text d) :: ("loop", loopValue k ds.length) :: scope)
      (line [.text "#include \"", put ["dependency"], .text "\""]) = some ("#include \"" ++ d ++ "\"\n") := by
    intro k d
    have hput : (put ["dependency"]).render (("dependency", .text d) :: ("loop", loopValue k ds.length) :: scope) =
        some d := render_put rfl
    simp [line, renderAll, hput, render_text, String.append_assoc]
  have hlines := render_each heval hline
  have hmap : (ds.mapIdx fun _ d => "#include \"" ++ d ++ "\"\n") = ds.map fun d => "#include \"" ++ d ++ "\"\n" :=
    List.ext_getElem (by simp) (by simp)
  rw [hmap] at hlines
  have hblock : renderAll scope (code ["", "/* Dependency includes */"] ++
      [.each "dependency" (.path ["integral", "include_dependencies"])
        (line [.text "#include \"", put ["dependency"], .text "\""]) []]) =
      some (plainLines ["", "/* Dependency includes */"] ++
        (String.join (ds.map fun d => "#include \"" ++ d ++ "\"\n") ++ "")) :=
    renderAll_append (renderAll_code _) (renderAll_cons hlines renderAll_nil)
  have hany : (Expr.compare .greater (.length (.path ["integral", "include_dependencies"]))
      (.literal (.integer 0))).holds scope = some (!ds.isEmpty) := by
    cases ds <;>
      simp [Expr.holds, Expr.eval, h, Json.texts, lengthOf, compareValues, ratio?, truth, truthy, Json.natural]
  rw [dependencyIncludes, renderAll, Segment.render, hany, hblock, includeBlock]
  by_cases hd : ds = []
  · simp [hd, renderAll]
  · have hempty : ds.isEmpty = false := by simpa using hd
    simp [hd, hempty, renderAll, plainLines, String.append_assoc]

def ownIncludesText (header : String) : String :=
  "/* Self-includes */\n" ++ ("#include \"" ++ header ++ "\"\n") ++
    "\n/* Standard includes */\n#include <math.h>\n#include <stdlib.h>\n\n"

def libraryIncludes : Backend → String
  | .gsl a =>
    "/* GSL includes */\n#include <gsl/gsl_math.h>\n#include <gsl/gsl_rng.h>\n#include <gsl/gsl_monte.h>\n" ++
      ("#include <gsl/gsl_monte_" ++ a.name ++ ".h>\n")
  | .openCl =>
    "/* OpenCL includes */\n#ifdef __APPLE__\n#include <OpenCL/opencl.h>\n#else\n#include <CL/opencl.h>\n#endif\n"

def sourceHead (backend : Backend) (o : GenerationOptions) : String :=
  bannerText (o.banner.getD "") ++ ownIncludesText o.headerName ++ libraryIncludes backend

lemma render_ownIncludes {header : String} (h : scope.find? ["header_include_name"] = some (.text header)) :
    renderAll scope ownIncludes = some (ownIncludesText header) := by
  have hline : renderAll scope (line [.text "#include \"", put ["header_include_name"], .text "\""]) =
      some ("#include \"" ++ header ++ "\"\n") := by
    simp [line, renderAll, render_put h, render_text, String.append_assoc]
  exact renderAll_append (renderAll_append (renderAll_code _) hline) (renderAll_code _)

lemma render_head (o : GenerationOptions) (extra : Scope) :
    renderAll (baseContext i o ++ extra) (bannerComment ++ ownIncludes) =
      some (bannerText (o.banner.getD "") ++ ownIncludesText o.headerName) :=
  renderAll_append (render_banner rfl) (render_ownIncludes rfl)

def gslHead : Template :=
  bannerComment ++ ownIncludes ++
    (code ["/* GSL includes */", "#include <gsl/gsl_math.h>", "#include <gsl/gsl_rng.h>",
      "#include <gsl/gsl_monte.h>"] ++ line [.text "#include <gsl/gsl_monte_", put ["algorithm"], .text ".h>"])

def openClHead : Template :=
  bannerComment ++ ownIncludes ++
    code ["/* OpenCL includes */", "#ifdef __APPLE__", "#include <OpenCL/opencl.h>", "#else",
      "#include <CL/opencl.h>", "#endif"]

lemma render_gslHead (i : Integral) (o : GenerationOptions) (a : GslAlgorithm) :
    renderAll (gslContext i o a) gslHead = some (sourceHead (.gsl a) o) := by
  have halgorithm : (gslContext i o a).find? ["algorithm"] = some (.text a.name) := rfl
  have hline : renderAll (gslContext i o a) (line [.text "#include <gsl/gsl_monte_", put ["algorithm"],
      .text ".h>"]) = some ("#include <gsl/gsl_monte_" ++ a.name ++ ".h>\n") := by
    simp [line, renderAll, render_put halgorithm, render_text, String.append_assoc]
  exact renderAll_append (render_head o _) (renderAll_append (renderAll_code _) hline)

lemma render_openClHead (i : Integral) (o : GenerationOptions) (extra : Scope) :
    renderAll (baseContext i o ++ extra) openClHead = some (sourceHead .openCl o) :=
  renderAll_append (render_head o extra) (renderAll_code _)

/-! ## The text behind the includes -/

def IsBare (path : List String) : Prop :=
  path ≠ ["integral"] ∧ path.take 2 ≠ ["integral", "include_dependencies"]

instance : DecidablePred IsBare := fun _ => inferInstanceAs (Decidable (_ ∧ _))

lemma find?_including (i : Integral) (o : GenerationOptions) (ds : List String) (extra : Scope)
    {path : List String} (h : IsBare path) :
    (baseContext (i.including ds) o ++ extra).find? path = (baseContext i o ++ extra).find? path := by
  by_cases hk : path.head? = some "integral"
  · obtain ⟨rest, rfl⟩ := List.head?_eq_some_iff.mp hk
    cases rest with
    | nil => exact absurd rfl h.1
    | cons key ss =>
      have hkey : (key == "include_dependencies") = false := by simpa [IsBare] using h.2
      have hdata : (integralData (i.including ds)).get? key = (integralData i).get? key := by
        simp only [integralData, Json.get?, List.lookup_cons, hkey]
        rfl
      exact congrArg (fun v : Option Json => v.bind fun w => follow w ss) hdata
  · exact (find?_cons_of_ne hk _).trans (find?_cons_of_ne hk _).symm

lemma agrees_including (shapes : Shapes) (i : Integral) (o : GenerationOptions) (ds : List String) (extra : Scope) :
    Scope.Agrees (shapes.filter fun e => IsBare e.1) (baseContext (i.including ds) o ++ extra)
      (baseContext i o ++ extra) :=
  fun _ he => find?_including i o ds extra (of_decide_eq_true (List.mem_filter.mp he).2)

lemma renderAll_including (shapes : Shapes) {t : Template} (i : Integral) (o : GenerationOptions) (ds : List String)
    (extra : Scope) (ht : areShaped (shapes.filter fun e => IsBare e.1) t = true) :
    renderAll (baseContext (i.including ds) o ++ extra) t = renderAll (baseContext i o ++ extra) t :=
  renderAll_congr t _ _ _ (agrees_including shapes i o ds extra) ht

lemma renderAll_around {head rest : Template} {a b : String} (hh : renderAll scope head = some a)
    (hd : scope.find? ["integral", "include_dependencies"] = some (.texts ds)) (hr : renderAll scope rest = some b) :
    renderAll scope (head ++ (dependencyIncludes ++ (code [""] ++ rest))) =
      some (a ++ includeBlock ds ++ ("\n" ++ b)) := by
  rw [renderAll_append hh (renderAll_append (render_dependencyIncludes hd) (renderAll_append (renderAll_code _) hr)),
    String.append_assoc]
  rfl

lemma gslSource_eq : gslSource = gslHead ++ (dependencyIncludes ++ (code [""] ++ (gslWrapper ++ gslFunction))) := by
  simp only [gslSource, gslIncludes, gslHead, List.append_assoc]

lemma render_gslSource_including (i : Integral) (o : GenerationOptions) (a : GslAlgorithm) :
    ∃ after, ∀ ds, renderAll (gslContext (i.including ds) o a) gslSource =
      some (sourceHead (.gsl a) o ++ includeBlock ds ++ ("\n" ++ after)) := by
  obtain ⟨after, hafter⟩ := renderAll_some (gslWrapper ++ gslFunction) _ _ (holds_gslContext i o a) (by decide)
  refine ⟨after, fun ds => ?_⟩
  have hrest := (renderAll_including gslShapes i o ds _ (by decide)).trans hafter
  rw [gslSource_eq]
  exact renderAll_around (render_gslHead (i.including ds) o a) rfl hrest

def openClBody : Template :=
  boundsStruct ++ (code [""] ++ (programLiteral ++ (code [""] ++ (deviceFunction ++ (openClVariables ++
    (openClSetup ++ (openClBuffers ++ (openClRun ++ (openClReduction ++ openClCleanup)))))))))

lemma openClSource_eq : openClSource = openClHead ++ (dependencyIncludes ++ (code [""] ++ openClBody)) := by
  simp only [openClSource, openClHead, openClBody, List.append_assoc]

lemma render_openClSource_including (i : Integral) (o : GenerationOptions) (text : String) (bodies : List String) :
    ∃ after, ∀ ds, renderAll (sourceContext (i.including ds) o text bodies) openClSource =
      some (sourceHead .openCl o ++ includeBlock ds ++ ("\n" ++ after)) := by
  obtain ⟨after, hafter⟩ := renderAll_some openClBody _ _ (holds_sourceContext i o text bodies) (by decide)
  refine ⟨after, fun ds => ?_⟩
  rw [sourceContext, openClContext, List.append_assoc] at hafter ⊢
  have hrest := (renderAll_including openClShapes i o ds _ (by decide)).trans hafter
  rw [openClSource_eq]
  exact renderAll_around (render_openClHead (i.including ds) o _) rfl hrest

lemma source_including (files : Store) (backend : Backend) (i : Integral) (o : GenerationOptions) :
    ∃ after, ∀ ds code, generateCode .builtin files backend (i.including ds) o = .ok code →
      code.source = sourceHead backend o ++ includeBlock ds ++ ("\n" ++ after) := by
  have hrender : ∀ {name : TemplateName} {scope : Scope} {text source : String},
      renderAll scope (TemplateSet.builtin.get name) = some text →
      TemplateSet.builtin.render name scope = .ok source → source = text :=
    fun ht hs => Except.ok.inj (hs.symm.trans (render_builtin ht))
  cases backend with
  | gsl a =>
    obtain ⟨after, hafter⟩ := render_gslSource_including i o a
    refine ⟨after, fun ds code h => ?_⟩
    obtain ⟨_, -, h⟩ := bind_ok h
    obtain ⟨header, -, h⟩ := bind_ok h
    obtain ⟨source, hs, h⟩ := bind_ok h
    obtain rfl := Except.ok.inj h
    exact hrender (hafter ds) hs
  | openCl =>
    cases ht : definitionText files i.integrand with
    | error f =>
      refine ⟨"", fun ds code h => ?_⟩
      obtain ⟨text, ht', -⟩ := bind_ok h
      cases ht.symm.trans ht'
    | ok text =>
      obtain ⟨program, hp⟩ := renderAll_some kernel _ _ (Serves.kernel i o text).holds (by decide)
      obtain ⟨after, hafter⟩ := render_openClSource_including i o text (literalLines program)
      refine ⟨after, fun ds code h => ?_⟩
      obtain ⟨text', ht', h⟩ := bind_ok h
      obtain rfl := Except.ok.inj (ht.symm.trans ht')
      obtain ⟨_, -, h⟩ := bind_ok h
      obtain ⟨program', hp', h⟩ := bind_ok h
      obtain ⟨header, -, h⟩ := bind_ok h
      obtain ⟨source, hs, h⟩ := bind_ok h
      obtain rfl := Except.ok.inj h
      -- the program of the device does not include anything
      obtain rfl : program' = program :=
        hrender ((renderAll_including kernelShapes i o ds _ (by decide)).trans hp) hp'
      exact hrender (hafter ds) hs

end Quadrature.Generation

namespace Quadrature

open Engine Generation

namespace Engine

variable {e : Engine} {files done : Store} {time : String} {r : GenerateRequest} {out : GeneratedFiles}

lemma record_of_integrand {d : FunctionDeclaration} (h : integrand files r = .ok d) :
    ∃ n, Extraction.record r.input n = .ok d := by
  rw [integrand] at h
  split at h
  · cases h
  · next s hs =>
    split at h
    · cases h
    · next c hc =>
      obtain rfl := Except.ok.inj h
      obtain ⟨content, u, -, -, hrel⟩ := SourceFile.lookup_of_load hs
      rcases hrel r.function with ⟨-, hl⟩ | ⟨o, c', -, hl, -, ho⟩
      · cases hc.symm.trans hl
      · obtain rfl := Option.some.inj (hc.symm.trans hl)
        exact ⟨o.2, ho.recorded⟩

structure Completes (e : Engine) (files : Store) (time : String) (r : GenerateRequest) (done : Store)
    (out : GeneratedFiles) (j : Integral) (o : GenerationOptions) : Prop where
  derived : ∃ d, integrand files r = .ok d ∧ Integral.derive d r.integralName = .ok j
  included : ∀ x ∈ e.includes r, Text.trim x ≠ ""
  options : e.options time r out.header = .ok o
  header : out.header = withExtension r.outputBase e.settings.output.headerExtension
  source : ∃ code, generateCode e.templates files (r.backend.getD e.settings.generation.backend)
    (j.including (e.includes r)) o = .ok code ∧ done.readText out.source = .ok code.source

lemma completes_of_generate (h : e.generate files time r = (done, .ok out)) :
    ∃ j o, e.Completes files time r done out j o := by
  rcases generate_cases e files time r with ⟨f, hf⟩ | ⟨t, ht, hleft⟩
  · cases hf.symm.trans h
  rw [h] at hleft
  obtain ⟨hheader, -, d, i, o, hd, hi, ho, hc⟩ := draft_ok ht
  obtain ⟨n, hn⟩ := record_of_integrand hd
  obtain ⟨j, hj, hblank, rfl⟩ := (integral_eq_ok_iff hn).mp hi
  cases hleft with
  | both _ _ hq hsource _ _ =>
    exact ⟨j, o, ⟨d, hd, hj⟩, hblank, ho, hheader, t.code, hc, Store.readText_of_locate hq hsource⟩

lemma Completes.eq {ds ds' : List String} {n n' : Option Nat} {done' : Store} {out' : GeneratedFiles}
    {j j' : Integral} {o o' : GenerationOptions}
    (h : e.Completes files time { r with dependencies := ds, sourceComponents := n } done out j o)
    (h' : e.Completes files time { r with dependencies := ds', sourceComponents := n' } done' out' j' o') :
    j = j' ∧ o = o' := by
  obtain ⟨d, hd, hj⟩ := h.derived
  obtain ⟨d', hd', hj'⟩ := h'.derived
  obtain rfl : d = d' := Except.ok.inj (hd.symm.trans hd')
  have ho := h.options
  rw [h.header] at ho
  have ho' := h'.options
  rw [h'.header] at ho'
  exact ⟨Except.ok.inj (hj.symm.trans hj'), Except.ok.inj (ho.symm.trans ho')⟩

end Engine

/-- Between the includes of the libraries and the code, a source includes what the request asks for, in that order
and as often, and then the integrand's own file if names of its path are asked for. The rest of the source is the
same whatever is included. There is no such block only if there is nothing in it, and a blank include stops the
run before anything is written. -/
theorem source_includes_dependencies (settings : Settings) (files : Store) (time : String) (r : GenerateRequest) :
    let run (ds : List String) (n : Option Nat) :=
      generate ⟨settings, .builtin⟩ files time { r with dependencies := ds, sourceComponents := n }
    let included (ds : List String) (n : Option Nat) :=
      ds ++ ownInclude r.input (n.getD settings.generation.sourceComponents)
    (∃ after, ∀ ds n done out, run ds n = (done, .ok out) →
      ∃ o, options ⟨settings, .builtin⟩ time r out.header = .ok o ∧
        done.readText out.source = .ok (sourceHead (r.backend.getD settings.generation.backend) o ++
          includeBlock (included ds n) ++ ("\n" ++ after))) ∧
    (∀ ds n, includeBlock (included ds n) = "" ↔ ds = [] ∧ n.getD settings.generation.sourceComponents = 0) ∧
    ∀ ds n, (∃ d ∈ ds, Text.trim d = "") → ∃ f, run ds n = (files, .error f) := by
  intro run included
  refine ⟨?_, fun ds n => ?_, fun ds n hblank => ?_⟩
  · by_cases hrun : ∃ ds n done out, run ds n = (done, .ok out)
    · obtain ⟨_, _, _, _, h⟩ := hrun
      obtain ⟨j, o, hfirst⟩ := completes_of_generate h
      obtain ⟨after, hafter⟩ := source_including files (r.backend.getD settings.generation.backend) j o
      refine ⟨after, fun ds n done out h => ?_⟩
      obtain ⟨j', o', hc⟩ := completes_of_generate h
      obtain ⟨rfl, rfl⟩ := hc.eq hfirst
      obtain ⟨code, hcode, hread⟩ := hc.source
      exact ⟨_, hc.options, by rw [hread, hafter _ code hcode]; rfl⟩
    · exact ⟨"", fun ds n done out h => absurd ⟨ds, n, done, out, h⟩ hrun⟩
  · simp [includeBlock_eq_empty_iff, included, ownInclude]
  · rcases generate_cases ⟨settings, .builtin⟩ files time { r with dependencies := ds, sourceComponents := n } with
      hf | ⟨t, ht, -⟩
    · exact hf
    · obtain ⟨-, -, d, i, o, hd, hi, -⟩ := draft_ok ht
      obtain ⟨m, hm⟩ := record_of_integrand hd
      obtain ⟨-, -, hnone, -⟩ := (integral_eq_ok_iff hm).mp hi
      obtain ⟨x, hx, hxb⟩ := hblank
      exact absurd hxb (hnone x (List.mem_append_left _ hx))

theorem source_includes_dependency_twice :
    let e : Engine := ⟨{}, .builtin⟩
    let files : Store := { entries := [(["src"], .directory), (["src", "f.h"], .text "double f(double x);\n")] }
    let r : GenerateRequest := { input := "./src/f.h", function := "f", outputBase := "out" }
    (∃ done o after, e.generate files "noon"
        { r with dependencies := ["b.h", "a.h", "b.h"], sourceComponents := some 2 } =
        (done, .ok ⟨"out.h", "out.c"⟩) ∧
      done.readText "out.c" = .ok (sourceHead (.gsl .plain) o ++ ("\n/* Dependency includes */\n" ++
        "#include \"b.h\"\n#include \"a.h\"\n#include \"b.h\"\n#include \"src/f.h\"\n") ++ ("\n" ++ after))) ∧
    ∃ f, e.generate files "noon" { r with dependencies := ["a.h", " "], sourceComponents := some 2 } =
      (files, .error f) := by
  intro e files r
  have hg : (e.generate files "noon"
      { r with dependencies := ["b.h", "a.h", "b.h"], sourceComponents := some 2 }).2 = .ok ⟨"out.h", "out.c"⟩ :=
    eq_ok_of_toOption (by decide +kernel)
  have h := eq_of_snd_eq hg
  have hblock : includeBlock (["b.h", "a.h", "b.h"] ++ ownInclude "./src/f.h" 2) = "\n/* Dependency includes */\n" ++
      "#include \"b.h\"\n#include \"a.h\"\n#include \"b.h\"\n#include \"src/f.h\"\n" := by
    decide +kernel
  obtain ⟨⟨after, hafter⟩, -, hblank⟩ := source_includes_dependencies {} files "noon" r
  obtain ⟨o, -, hread⟩ := hafter _ _ _ _ h
  refine ⟨⟨_, o, after, h, ?_⟩, hblank _ _ ⟨" ", by simp, by decide⟩⟩
  rw [← hblock]
  exact hread

end Quadrature
