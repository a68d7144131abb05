import Quadrature.Proofs.GeneratedCode

/-! What the name of the integrand stands for where generated code calls it. The code around the call
declares names of its own, and one that is equal to the name of the integrand hides it. -/

namespace Quadrature

namespace Hygiene

/-- Code in which the names that it declares, the calls of the integrand and the scopes are marked. -/
inductive Mark where
  | text (content : String)
  | declare (name : String)
  | call (name : String)
  | scope (body : List Mark)

mutual

def Mark.content : Mark → String
  | .text content => content
  | .declare name => name
  | .call name => name
  | .scope body => contents body

def contents : List Mark → String
  | [] => ""
  | m :: ms => m.content ++ contents ms

end

mutual

def Mark.declared : Mark → List String
  | .text _ => []
  | .declare name => [name]
  | .call _ => []
  | .scope body => declaredIn body

def declaredIn : List Mark → List String
  | [] => []
  | m :: ms => m.declared ++ declaredIn ms

end

structure Call where
  name : String
  visible : List String

def Mark.extend (visible : List String) : Mark → List String
  | .declare name => name :: visible
  | _ => visible

mutual

def Mark.calls (visible : List String) : Mark → List Call
  | .text _ => []
  | .declare _ => []
  | .call name => [⟨name, visible⟩]
  | .scope body => callsIn visible body

def callsIn (visible : List String) : List Mark → List Call
  | [] => []
  | m :: ms => m.calls visible ++ callsIn (m.extend visible) ms

end

lemma contents_append (ms ns : List Mark) : contents (ms ++ ns) = contents ms ++ contents ns := by
  induction ms with
  | nil => simp [contents]
  | cons m ms ih => rw [List.cons_append, contents, contents, ih, String.append_assoc]

/-! ## The functions around the calls -/

open Generation Template Templates

def pointText (n : Nat) : String :=
  "(" ++ Text.join ", " ((List.range n).map fun k => "x[" ++ toString k ++ "]") ++ ")"

lemma callText_eq (f : String) (n : Nat) : callText f n = f ++ pointText n := by
  delta callText pointText
  simp only [String.append_assoc]

def wrapperName (i : Integral) : String := "_" ++ i.name ++ "_wrapper"

def wrapperBody (i : Integral) : List Mark :=
  [.text "(double *", .declare "x", .text ", size_t ", .declare "dim", .text ", void *", .declare "params",
    .text ")\n\x7b\n    (void)dim;\n    (void)params;\n    return ", .call i.integrand.name,
    .text (pointText i.dimensions), .text ";\n\x7d\n\n"]

def wrapperCode (i : Integral) : List Mark :=
  [.text "static double ", .declare (wrapperName i), .scope (wrapperBody i)]

lemma contents_wrapperCode (i : Integral) : contents (wrapperCode i) = wrapperText i := by
  delta wrapperText wrapperCode wrapperBody wrapperName
  rw [callText_eq, ← String.toList_inj]
  simp [contents, Mark.content]

def kernelParameters : List Mark :=
  [.text "                                const uint ", .declare "seed",
    .text ",\n                                const uint ", .declare "samples",
    .text ",\n                                __global double *", .declare "sums",
    .text ",\n                                __global double *", .declare "squares", .text ")\n"]

def kernelVariables : List Mark :=
  [.text "\x7b\n    uint ", .declare "gid", .text " = get_global_id(0);\n    uint ", .declare "state",
    .text " = seed ^ (gid * 2654435761u);\n    double ", .declare "sum", .text " = 0.0;\n    double ",
    .declare "square", .text " = 0.0;\n"]

def coordinateLoop (i : Integral) : List Mark :=
  [.text "        for(uint ", .declare "d", .text " = 0; d < ", .text (toString i.dimensions), .text "; d++)\n",
    .text (plainLines ["        \x7b",
      "            state ^= state << 13;",
      "            state ^= state >> 17;",
      "            state ^= state << 5;",
      "            x[d] = bounds->lower[d] + (state / 4294967296.0) * (bounds->upper[d] - bounds->lower[d]);",
      "        \x7d",
      ""])]

def pointLoop (i : Integral) : List Mark :=
  [.text "    for(uint ", .declare "i", .text " = 0; i < samples; i++)\n    \x7b\n", .scope (coordinateLoop i),
    -- a variable is in scope in its own initial value
    .text "        double ", .declare "value", .text " = ", .call i.integrand.name,
    .text (pointText i.dimensions), .text ";\n",
    .text (plainLines ["        sum += value;", "        square += value * value;", "    \x7d"])]

def kernelBody (i : Integral) : List Mark :=
  [.text "(__global const ", .text (boundsTypeName i), .text " *", .declare "bounds", .text ",\n"] ++
    kernelParameters ++ kernelVariables ++
    [.text "    double ", .declare "x", .text "[", .text (toString i.dimensions), .text "];\n",
      .text (plainLines ["", "    if(state == 0)", "    \x7b", "        state = 1;", "    \x7d", ""]),
      .scope (pointLoop i),
      .text (plainLines ["", "    sums[gid] = sum;", "    squares[gid] = square;", "\x7d"])]

def kernelCode (i : Integral) : List Mark :=
  [.text "typedef struct\n\x7b\n", .text "    double lower[", .text (toString i.dimensions), .text "];\n",
    .text "    double upper[", .text (toString i.dimensions), .text "];\n", .text "\x7d ",
    .declare (boundsTypeName i), .text ";\n", .text (plainLines [""]), .text "__kernel void ",
    .declare (i.name ++ "_kernel"), .scope (kernelBody i)]

lemma callsIn_wrapperCode (i : Integral) : callsIn [i.name] (wrapperCode i) =
    [⟨i.integrand.name, (declaredIn (wrapperBody i)).reverse ++ [wrapperName i, i.name]⟩] := rfl

lemma callsIn_kernelCode (i : Integral) : callsIn [] (kernelCode i) =
    [⟨i.integrand.name, ((declaredIn (kernelBody i)).filter (· ≠ "d")).reverse ++
      [i.name ++ "_kernel", boundsTypeName i]⟩] := rfl

/-! ## The text of the kernel -/

lemma contents_kernelParameters : contents kernelParameters =
    plainLines ["                                const uint seed,",
      "                                const uint samples,",
      "                                __global double *sums,",
      "                                __global double *squares)"] := by
  decide +kernel

lemma contents_kernelVariables : contents kernelVariables =
    plainLines ["\x7b",
      "    uint gid = get_global_id(0);",
      "    uint state = seed ^ (gid * 2654435761u);",
      "    double sum = 0.0;",
      "    double square = 0.0;"] := by
  decide +kernel

variable {scope : Scope} {i : Integral}

lemma renderAll_pointLoop (h : Describes scope i) : renderAll scope kernelLoop = some (contents (pointLoop i)) := by
  have hloop : renderAll scope (line [.text "        for(uint d = 0; d < ", Templates.dimensions, .text "; d++)"]) =
      some ("        for(uint d = 0; d < " ++ toString i.dimensions ++ "; d++)\n") := by
    simp [line, renderAll, h.render_dimensions, render_text, String.append_assoc]
  have hi : plainLines ["    for(uint i = 0; i < samples; i++)", "    \x7b"] =
      "    for(uint " ++ "i" ++ " = 0; i < samples; i++)\n    \x7b\n" := by decide +kernel
  have hd : "        for(uint d = 0; d < " = "        for(uint " ++ "d" ++ " = 0; d < " := by decide +kernel
  have hvalue : "        double value = " = "        double " ++ "value" ++ " = " := by decide +kernel
  rw [kernelLoop, renderAll_append (renderAll_append (renderAll_append (renderAll_append (renderAll_code _) hloop)
    (renderAll_code _)) (h.render_callLine _)) (renderAll_code _), callText_eq, pointLoop, coordinateLoop, hi, hd,
    hvalue]
  simp only [contents, Mark.content, String.append_empty, String.append_assoc, -String.reduceAppend]

lemma renderAll_kernelHead {type kernel : String} (ht : scope.find? ["bounds_type"] = some (.text type))
    (hk : scope.find? ["kernel_name"] = some (.text kernel)) :
    renderAll scope kernelHead = some ("__kernel void " ++ kernel ++ "(__global const " ++ type ++ " *" ++
      "bounds" ++ ",\n" ++ contents kernelParameters) := by
  have htype : boundsType.render scope = some type := render_put ht
  have hname : kernelName.render scope = some kernel := render_put hk
  have hline : renderAll scope (line [.text "__kernel void ", kernelName, .text "(__global const ", boundsType,
      .text " *bounds,"]) = some ("__kernel void " ++ kernel ++ "(__global const " ++ type ++ " *bounds,\n") := by
    simp [line, renderAll, hname, htype, render_text, String.append_assoc]
  have hbounds : " *bounds,\n" = " *" ++ "bounds" ++ ",\n" := by decide +kernel
  rw [kernelHead, renderAll_append hline (renderAll_code _), contents_kernelParameters, hbounds]
  simp only [String.append_assoc, -String.reduceAppend]

lemma renders_kernelCode (i : Integral) (o : GenerationOptions) (text : String) :
    Renders (openClContext i o text) kernel [contents (kernelCode i)] := by
  have hd : Describes (openClContext i o text) i := describes_baseContext i o _
  have hs := (Serves.kernel i o text).holds
  have htype : (openClContext i o text).find? ["bounds_type"] = some (.text (boundsTypeName i)) := rfl
  have hx : "    double x[" = "    double " ++ "x" ++ "[" := by decide +kernel
  -- the marked code starts with the type of the bounds, behind the text of the integrand
  rw [kernel]
  simp only [List.append_assoc]
  refine ((Renders.behind (renders_text ?_) hs ?_).behind hs ?_).behind hs ?_
  · rw [renderAll_append (hd.render_struct htype) (renderAll_append (renderAll_code _)
      (renderAll_append (renderAll_kernelHead htype rfl) (renderAll_append (renderAll_code _)
      (renderAll_append (hd.render_arrayLine _) (renderAll_append (renderAll_code _)
      (renderAll_append (renderAll_pointLoop hd) (renderAll_code _))))))), ← contents_kernelVariables, hx]
    delta structText
    simp only [kernelCode, kernelBody, contents, Mark.content, contents_append, String.append_empty,
      String.append_assoc, -String.reduceAppend]
  all_goals decide

end Hygiene

open Generation Hygiene

namespace Integral

variable {d : FunctionDeclaration} {name : Option String}

lemma chooseName_eq_iff {n : String} (h : chooseName d name = .ok n) : n = d.name ↔ name = some d.name := by
  cases name with
  | none =>
    obtain rfl := Except.ok.inj h
    have hne : d.name ++ "_integral" ≠ d.name := fun he => by simpa using congrArg String.length he
    simp [hne]
  | some m =>
    rw [chooseName] at h
    split at h
    · obtain rfl := Except.ok.inj h
      exact Option.some_inj.symm
    · cases h

end Integral

/-- What hides the integrand from its call: in the wrapper its three parameters, in the kernel every
parameter and variable but the one whose loop has ended, and in both the names that are made from the name of
the integral. The integral takes the name of the integrand itself whenever it is asked to. -/
theorem integrand_call_hidden_iff {d : FunctionDeclaration} {name : Option String} {deps : List String}
    {i j : Integral} (hj : Integral.derive d name = .ok j) (hi : j.addDependencies deps = .ok i)
    (hn : i.dimensions ≠ 0) (files : Store) (o : GenerationOptions) :
    (i.name = d.name ↔ name = some d.name) ∧
    ((∀ a, ∃ code, generateCode .builtin files (.gsl a) i o = .ok code ∧
        InOrder [contents (wrapperCode i), definitionHead i] code.source) ∧
      declaredIn (wrapperBody i) = ["x", "dim", "params"] ∧
      ∃ visible, callsIn [i.name] (wrapperCode i) = [⟨d.name, visible⟩] ∧
        (d.name ∈ visible ↔
          d.name ∈ declaredIn (wrapperBody i) ∨ d.name = wrapperName i ∨ name = some d.name)) ∧
    (d.hasBody files = true → ∃ text program code, d.text? files = some text ∧
        generateCode .builtin files .openCl i o = .ok code ∧
        TemplateSet.builtin.render .kernel (openClContext i o text) = .ok program ∧
        InOrder [contents (kernelCode i)] program ∧
        InOrder [programText i.name (literalLines program), definitionHead i] code.source) ∧
      declaredIn (kernelBody i) = ["bounds", "seed", "samples", "sums", "squares", "gid", "state", "sum", "square",
        "x", "i", "d", "value"] ∧
      ∃ visible, callsIn [] (kernelCode i) = [⟨d.name, visible⟩] ∧
        (d.name ∈ visible ↔ d.name ∈ declaredIn (kernelBody i) ∧ d.name ≠ "d" ∨
          d.name = i.name ++ "_kernel" ∨ d.name = boundsTypeName i) := by
  obtain ⟨hchoose, hd⟩ := Integral.chooseName_of_addDependencies hj hi
  have hname := Integral.chooseName_eq_iff hchoose
  subst hd
  refine ⟨hname, ⟨?_, rfl, _, callsIn_wrapperCode i, ?_⟩, ?_, rfl, _, callsIn_kernelCode i, ?_⟩
  · intro a
    obtain ⟨source, hs, hparts⟩ := renders_gslSource i o a
    refine ⟨_, gslCode_ok hn (render_builtin (provides_baseContext i o _).render_header) (render_builtin hs), ?_⟩
    rw [contents_wrapperCode]
    exact hparts.sublist (.cons_cons _ (.cons_cons _ (List.nil_sublist _)))
  · simp only [List.mem_append, List.mem_reverse, List.mem_cons, List.not_mem_nil, or_false]
    rw [← hname, eq_comm (a := i.name)]
  · intro hbody
    obtain ⟨text, htext, hdef⟩ := definitionText_ok hbody
    obtain ⟨program, hp, hkernel⟩ := renders_kernelCode i o text
    obtain ⟨source, hs, hparts⟩ := renders_openClSource i o text (literalLines program)
    exact ⟨text, program, _, htext, openClCode_ok hdef hn (render_builtin hp)
      (render_builtin (provides_baseContext i o _).render_header) (render_builtin hs), render_builtin hp, hkernel,
      hparts.sublist (.cons _ (.cons_cons _ (.cons_cons _ (List.nil_sublist _))))⟩
  · simp only [List.mem_append, List.mem_reverse, List.mem_filter, List.mem_cons, List.not_mem_nil, or_false,
      decide_eq_true_eq]

theorem integrand_call_hidden_by_point :
    let d : FunctionDeclaration :=
      { name := "x", returnType := "double", arguments := [⟨"double", "t"⟩],
        remembered := some "double x(double t) \x7b return t; \x7d" }
    let o : GenerationOptions := { headerName := "x.h", guard := "X_H", calls := 10, banner := none }
    (∃ i visible code, Integral.derive d none = .ok i ∧
      generateCode .builtin {} (.gsl .plain) i o = .ok code ∧
      InOrder [contents (wrapperCode i), definitionHead i] code.source ∧
      callsIn [i.name] (wrapperCode i) = [⟨"x", visible⟩] ∧ "x" ∈ visible) ∧
    (∃ i visible code, Integral.derive d none = .ok i ∧ generateCode .builtin {} .openCl i o = .ok code ∧
      callsIn [] (kernelCode i) = [⟨"x", visible⟩] ∧ "x" ∈ visible) ∧
    ∃ i code, Integral.derive d (some "x") = .ok i ∧ generateCode .builtin {} (.gsl .plain) i o = .ok code ∧
      i.name = "x" := by
  intro d o
  have hbody : d.hasBody {} = true := by decide +kernel
  obtain ⟨i, hi, hn⟩ : ∃ i : Integral, Integral.derive d none = .ok i ∧ i.dimensions ≠ 0 :=
    ⟨_, rfl, by decide⟩
  obtain ⟨k, hk, hm⟩ : ∃ k : Integral, Integral.derive d (some "x") = .ok k ∧ k.dimensions ≠ 0 :=
    ⟨_, rfl, by decide⟩
  obtain ⟨-, ⟨hgsl, hwrapper, visible, hcall, hiff⟩, hcl, hkernel, seen, hcalls, hseen⟩ :=
    integrand_call_hidden_iff hi (rfl : i.addDependencies [] = .ok i) hn {} o
  obtain ⟨hname, ⟨hown, -⟩, -⟩ := integrand_call_hidden_iff hk (rfl : k.addDependencies [] = .ok k) hm {} o
  obtain ⟨code, hcode, hin⟩ := hgsl .plain
  obtain ⟨-, -, program, -, hprogram, -⟩ := hcl hbody
  obtain ⟨own, howncode, -⟩ := hown .plain
  refine ⟨⟨i, visible, code, hi, hcode, hin, hcall, hiff.mpr (.inl ?_)⟩,
    ⟨i, seen, program, hi, hprogram, hcalls, hseen.mpr (.inl ⟨?_, by decide⟩)⟩,
    k, own, hk, howncode, hname.mpr rfl⟩
  · rw [hwrapper]
    decide
  · rw [hkernel]
    decide

end Quadrature
