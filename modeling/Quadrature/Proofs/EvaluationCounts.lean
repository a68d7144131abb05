import Quadrature.Proofs.GeneratedCode
import Mathlib.Logic.Function.Basic

/-! How often generated code evaluates the integrand. The counts are computed by the code itself, in the
unsigned arithmetic of C, from the number of calls that stands in it. -/

namespace Quadrature.Counting

/-! ## Unsigned arithmetic -/

inductive Unsigned where
  | size
  | uint

def Unsigned.text : Unsigned → String
  | .size => "size_t"
  | .uint => "cl_uint"

/-- What is left of a value in a variable or after a cast: 64 bits of a size, and 32 of the other type. -/
def Unsigned.convert : Unsigned → BitVec 64 → BitVec 64
  | .size, v => v
  | .uint, v => (v.setWidth 32).setWidth 64

mutual

/-- Operands, terms and totals are the levels of the grammar of C. Operators of one level group from the left,
and casts bind tighter than all of them. -/
inductive Operand where
  | number (n : Nat)
  | name (text : String)
  | parens (e : Total)
  | cast (type : Unsigned) (e : Operand)

inductive Term where
  | operand (e : Operand)
  | quotient (l : Term) (r : Operand)

inductive Total where
  | term (e : Term)
  | plus (l : Total) (r : Term)
  | minus (l : Total) (r : Term)

end

mutual

def Operand.text : Operand → String
  | .number n => toString n
  | .name text => text
  | .parens e => "(" ++ e.text ++ ")"
  | .cast type e => "(" ++ type.text ++ ")" ++ e.text

def Term.text : Term → String
  | .operand e => e.text
  | .quotient l r => l.text ++ " / " ++ r.text

def Total.text : Total → String
  | .term e => e.text
  | .plus l r => l.text ++ " + " ++ r.text
  | .minus l r => l.text ++ " - " ++ r.text

end

abbrev Values := String → BitVec 64

mutual

/-- The value of an operand. Every operation of generated code has a size on one side, so that all of them
wrap at 64 bits. -/
def Operand.value (values : Values) : Operand → BitVec 64
  | .number n => BitVec.ofNat 64 n
  | .name text => values text
  | .parens e => e.value values
  | .cast type e => type.convert (e.value values)

def Term.value (values : Values) : Term → BitVec 64
  | .operand e => e.value values
  | .quotient l r => l.value values / r.value values

def Total.value (values : Values) : Total → BitVec 64
  | .term e => e.value values
  | .plus l r => l.value values + r.value values
  | .minus l r => l.value values - r.value values

end

structure Definition where
  qualifier : String
  type : Unsigned
  name : String
  initial : Operand

def Definition.line (d : Definition) : String :=
  "    " ++ d.qualifier ++ d.type.text ++ " " ++ d.name ++ " = " ++ d.initial.text ++ ";\n"

def Definition.run (values : Values) (d : Definition) : Values :=
  Function.update values d.name (d.type.convert (d.initial.value values))

def valuesAfter (ds : List Definition) : Values := ds.foldl Definition.run fun _ => 0

/-! ## The counts -/

def itemsDefinition : Definition := ⟨"const ", .size, "work_items", .number Generation.workItems⟩

def samplesDefinition (calls : Nat) : Definition :=
  ⟨"const ", .uint, "samples", .cast .uint (.parens (.term (.quotient
    (.operand (.parens (.minus (.plus (.term (.operand (.number calls))) (.operand (.name "work_items")))
      (.operand (.number 1)))))
    (.name "work_items"))))⟩

def sampleDefinitions (calls : Nat) : List Definition := [itemsDefinition, samplesDefinition calls]

def workItems (calls : Nat) : Nat := (valuesAfter (sampleDefinitions calls) "work_items").toNat

def samples (calls : Nat) : Nat := (valuesAfter (sampleDefinitions calls) "samples").toNat

def callDefinition (calls : Nat) : Definition := ⟨"", .size, "n_calls", .number calls⟩

def runCalls : Term := .quotient (.operand (.name "n_calls")) (.number 5)

def callsPerRun (calls : Nat) : Nat := (runCalls.value (valuesAfter [callDefinition calls])).toNat

lemma workItems_eq (calls : Nat) : workItems calls = 1024 := by
  simp [workItems, valuesAfter, sampleDefinitions, itemsDefinition, samplesDefinition, Definition.run,
    Unsigned.convert, Operand.value, Generation.workItems, Function.update]

lemma samples_eq (calls : Nat) :
    samples calls = (calls + 1023) % 2 ^ 64 / 1024 % 2 ^ 32 := by
  have hvalue : samples calls = (18446744073709551615 + (calls + 1024)) % 18446744073709551616 / 1024 %
      4294967296 % 18446744073709551616 := by
    simp [samples, valuesAfter, sampleDefinitions, itemsDefinition, samplesDefinition, Definition.run,
      Unsigned.convert, Operand.value, Term.value, Total.value, Generation.workItems, Function.update]
  rw [hvalue]
  simp only [Nat.reducePow]
  omega

lemma callsPerRun_eq {calls : Nat} (h : calls < 2 ^ 64) : callsPerRun calls = calls / 5 := by
  have hvalue : callsPerRun calls = calls % 2 ^ 64 / 5 := by
    simp [callsPerRun, runCalls, valuesAfter, callDefinition, Definition.run, Unsigned.convert, Operand.value,
      Term.value, Function.update]
  rw [hvalue, Nat.mod_eq_of_lt h]

/-- The device covers all calls as long as the samples of a work item fit their type. Beyond that, the
quotient loses its upper bits, or the sum in it has already wrapped around. -/
lemma samples_suffice_iff {calls : Nat} (h : 1 ≤ calls) (hcalls : calls < 2 ^ 64) :
    1 ≤ samples calls ∧ calls ≤ workItems calls * samples calls ↔ calls ≤ 1024 * (2 ^ 32 - 1) := by
  rw [workItems_eq, samples_eq]
  simp only [Nat.reducePow] at hcalls ⊢
  omega

end Quadrature.Counting

namespace Quadrature

namespace Generation

open Template Templates Counting

def runLine : String := "                                      " ++ runCalls.text ++ ", r, s, &result, &_error);\n"

lemma line_samples (calls : Nat) :
    "    const cl_uint samples = (cl_uint)((" ++ toString calls ++ " + work_items - 1) / work_items);\n" =
      (samplesDefinition calls).line := by
  have hone : toString (1 : Nat) = "1" := rfl
  rw [← String.toList_inj]
  simp [samplesDefinition, Definition.line, Unsigned.text, Operand.text, Term.text, Total.text, hone]

lemma renders_sampleDefinitions (i : Integral) (o : GenerationOptions) (text : String) (bodies : List String) :
    Renders (sourceContext i o text bodies) openClSource ((sampleDefinitions o.calls).map Definition.line) := by
  have hs := holds_sourceContext i o text bodies
  have hitems : (put ["work_items"]).render (sourceContext i o text bodies) =
      some (toString Generation.workItems) := render_put_natural rfl
  have hcalls : (put ["n_calls"]).render (sourceContext i o text bodies) = some (toString o.calls) :=
    render_put_natural rfl
  have hfirst : renderAll (sourceContext i o text bodies)
      (line [.text "    const size_t work_items = ", put ["work_items"], .text ";"]) =
      some itemsDefinition.line := by
    simp [line, renderAll, hitems, render_text, String.append_assoc, itemsDefinition, Definition.line,
      Unsigned.text, Operand.text]
  have hsecond : renderAll (sourceContext i o text bodies)
      (line [.text "    const cl_uint samples = (cl_uint)((", put ["n_calls"],
        .text " + work_items - 1) / work_items);"]) =
      some (samplesDefinition o.calls).line := by
    rw [← line_samples]
    simp [line, renderAll, hcalls, render_text, String.append_assoc]
  have hvariables : Renders (sourceContext i o text bodies) openClVariables
      ((sampleDefinitions o.calls).map Definition.line) := by
    refine (((((((renders_text hfirst).behind hs ?_).append (renders_text hsecond)).before hs ?_).before
      hs ?_).before hs ?_).before hs ?_).before hs ?_
    all_goals decide
  refine (((((hvariables.behind hs ?_).before hs ?_).before hs ?_).before hs ?_).before hs ?_).before hs ?_
  all_goals decide

lemma renders_code_head (scope : Scope) (l : String) (ls : List String) :
    Renders scope (code (l :: ls)) [l ++ "\n"] := by
  refine ⟨_, renderAll_code _, ?_⟩
  rw [plainLines]
  exact inOrder_append _ _

lemma renders_vegasRuns (i : Integral) (o : GenerationOptions) :
    Renders (gslContext i o .vegas) gslRuns [runLine] := by
  have hvegas : Renders (gslContext i o .vegas) gslVegasRuns [runLine] := by
    have hline : runLine =
        "                                      n_calls / 5, r, s, &result, &_error);" ++ "\n" := by
      decide +kernel
    rw [hline]
    exact (renders_code_head _ _ _).behind (holds_gslContext i o .vegas) (by decide)
  obtain ⟨text, htext, hin⟩ := hvegas
  -- the branches of the other algorithms are passed over
  have hplain : (Expr.compare .equal (.path ["algorithm"]) (.literal (.text "plain"))).holds
      (gslContext i o .vegas) = some false := rfl
  have hmiser : (Expr.compare .equal (.path ["algorithm"]) (.literal (.text "miser"))).holds
      (gslContext i o .vegas) = some false := rfl
  refine ⟨text, ?_, hin⟩
  simp [gslRuns, renderAll, Segment.render, hplain, hmiser, htext]

lemma renders_vegasCalls (i : Integral) (o : GenerationOptions) :
    Renders (gslContext i o .vegas) gslSource [(callDefinition o.calls).line, runLine] := by
  have hs := holds_gslContext i o .vegas
  have hcalls : (put ["n_calls"]).render (gslContext i o .vegas) = some (toString o.calls) :=
    render_put_natural rfl
  have hline : renderAll (gslContext i o .vegas)
      (line [.text "    size_t n_calls = ", put ["n_calls"], .text ";"]) = some (callDefinition o.calls).line := by
    simp [line, renderAll, hcalls, render_text, String.append_assoc, callDefinition, Definition.line,
      Unsigned.text, Operand.text]
  have hfunction : Renders (gslContext i o .vegas) gslFunction [(callDefinition o.calls).line, runLine] := by
    refine ((((renders_text hline).behind hs ?_).before hs ?_).append (renders_vegasRuns i o)).before hs ?_
    all_goals decide
  exact hfunction.behind hs (by decide)

end Generation

open Generation Counting

/-- The evaluations that generated code asks for, for every number of calls that options accept: a device
covers the calls unless their share for a work item exceeds 32 bits, and a converging run of the VEGAS
algorithm has calls left unless there are fewer than five. -/
theorem evaluation_counts_suffice_iff {o o' : GenerationOptions} {calls : Nat} (ho : o.withCalls calls = .ok o')
    (hcalls : calls < 2 ^ 64) {i : Integral} (hi : i.dimensions ≠ 0) (files : Store) :
    (i.integrand.hasBody files = true → ∃ code, generateCode .builtin files .openCl i o' = .ok code ∧
      InOrder ((sampleDefinitions calls).map Definition.line) code.source) ∧
    (1 ≤ samples calls ∧ calls ≤ Counting.workItems calls * samples calls ↔
      calls ≤ 1024 * (2 ^ 32 - 1)) ∧
    (∃ code, generateCode .builtin files (.gsl .vegas) i o' = .ok code ∧
      InOrder [(callDefinition calls).line, runLine] code.source) ∧
    (1 ≤ callsPerRun calls ↔ 5 ≤ calls) := by
  obtain ⟨hpos, rfl⟩ : 1 ≤ calls ∧ { o with calls } = o' := by
    rw [GenerationOptions.withCalls] at ho
    split at ho
    · cases ho
    · next h => exact ⟨Nat.not_lt.mp h, Except.ok.inj ho⟩
  refine ⟨?_, samples_suffice_iff hpos hcalls, ?_, ?_⟩
  · intro hbody
    obtain ⟨text, -, hdef⟩ := definitionText_ok hbody
    obtain ⟨program, hp⟩ := (Serves.kernel i { o with calls } text).renders
    obtain ⟨source, hs, hin⟩ := renders_sampleDefinitions i { o with calls } text (literalLines program)
    exact ⟨_, openClCode_ok hdef hi hp (render_builtin (provides_baseContext i _ _).render_header)
      (render_builtin hs), hin⟩
  · obtain ⟨source, hs, hin⟩ := renders_vegasCalls i { o with calls }
    exact ⟨_, gslCode_ok hi (render_builtin (provides_baseContext i _ _).render_header) (render_builtin hs), hin⟩
  · rw [callsPerRun_eq hcalls]
    omega

theorem evaluation_counts_zero :
    let d : FunctionDeclaration :=
      { name := "f", returnType := "double", arguments := [⟨"double", "x"⟩],
        remembered := some "double f(double x) \x7b return x; \x7d" }
    let o : GenerationOptions := { headerName := "f.h", guard := "F_H", calls := 10, banner := none }
    ∃ i, Integral.derive d none = .ok i ∧
      (∃ code, generateCode .builtin {} .openCl i { o with calls := 4398046511104 } = .ok code ∧
        InOrder ((sampleDefinitions 4398046511104).map Definition.line) code.source) ∧
      samples 4398046511104 = 0 ∧
      ¬ (1 ≤ samples 4398046511104 ∧
        4398046511104 ≤ Counting.workItems 4398046511104 * samples 4398046511104) ∧
      (∃ code, generateCode .builtin {} (.gsl .vegas) i { o with calls := 4 } = .ok code ∧
        InOrder [(callDefinition 4).line, runLine] code.source) ∧
      callsPerRun 4 = 0 := by
  intro d o
  have hbody : d.hasBody {} = true := by decide +kernel
  obtain ⟨i, hi, hd, hn⟩ : ∃ i : Integral, Integral.derive d none = .ok i ∧ i.integrand = d ∧
      i.dimensions ≠ 0 := ⟨_, rfl, rfl, by decide⟩
  have hlarge := @evaluation_counts_suffice_iff o _ 4398046511104 rfl (by decide) i hn {}
  have hsmall := @evaluation_counts_suffice_iff o _ 4 rfl (by decide) i hn {}
  refine ⟨i, hi, hlarge.1 (hd ▸ hbody), (samples_eq _).trans (by decide), fun h => ?_, hsmall.2.2.1, ?_⟩
  · exact absurd (hlarge.2.1.mp h) (by decide)
  · exact Nat.lt_one_iff.mp (Nat.not_le.mp fun h => absurd (hsmall.2.2.2.mp h) (by decide))

end Quadrature
