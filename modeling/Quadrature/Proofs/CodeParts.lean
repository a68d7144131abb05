import Quadrature.Proofs.HeaderText
import Quadrature.Proofs.ShapedTemplates

/-! The parts of generated code: what the templates render to, and that they always render. -/

namespace Quadrature

def InOrder : List String → String → Prop
  | [], _ => True
  | p :: ps, s => ∃ before after, s = before ++ p ++ after ∧ InOrder ps after

lemma InOrder.append_left {ps : List String} {s : String} (h : InOrder ps s) (t : String) :
    InOrder ps (t ++ s) := by
  cases ps with
  | nil => trivial
  | cons p ps =>
    obtain ⟨before, after, rfl, hps⟩ := h
    exact ⟨t ++ before, after, by simp only [String.append_assoc], hps⟩

lemma InOrder.append {ps qs : List String} {s t : String} (hs : InOrder ps s) (ht : InOrder qs t) :
    InOrder (ps ++ qs) (s ++ t) := by
  induction ps generalizing s with
  | nil => exact ht.append_left s
  | cons p ps ih =>
    obtain ⟨before, after, rfl, hps⟩ := hs
    exact ⟨before, after ++ t, String.append_assoc .., ih hps⟩

lemma InOrder.sublist {ps qs : List String} (h : qs.Sublist ps) {s : String} (hs : InOrder ps s) :
    InOrder qs s := by
  induction h generalizing s with
  | slnil => trivial
  | cons p _ ih =>
    obtain ⟨before, after, rfl, hps⟩ := hs
    exact (ih hps).append_left (before ++ p)
  | cons_cons p _ ih =>
    obtain ⟨before, after, rfl, hps⟩ := hs
    exact ⟨before, after, rfl, ih hps⟩

lemma inOrder_append (p s : String) : InOrder [p] (p ++ s) := ⟨"", s, by simp, trivial⟩

namespace Generation

open Template Templates

variable {scope : Scope} {shapes : Shapes} {t u : Template} {ps qs : List String} {name text : String}

def Renders (scope : Scope) (t : Template) (parts : List String) : Prop :=
  ∃ text, renderAll scope t = some text ∧ InOrder parts text

lemma Renders.append (ht : Renders scope t ps) (hu : Renders scope u qs) :
    Renders scope (t ++ u) (ps ++ qs) := by
  obtain ⟨a, ha, hps⟩ := ht
  obtain ⟨b, hb, hqs⟩ := hu
  exact ⟨a ++ b, renderAll_append ha hb, hps.append hqs⟩

lemma renders_shaped (h : scope.Holds shapes) (t : Template) (hs : areShaped shapes t = true) :
    Renders scope t [] := by
  obtain ⟨text, ht⟩ := renderAll_some t scope shapes h hs
  exact ⟨text, ht, trivial⟩

lemma Renders.behind (hu : Renders scope u ps) (h : scope.Holds shapes) (ht : areShaped shapes t = true) :
    Renders scope (t ++ u) ps :=
  (renders_shaped h t ht).append hu

lemma Renders.before (ht : Renders scope t ps) (h : scope.Holds shapes) (hu : areShaped shapes u = true) :
    Renders scope (t ++ u) ps := by
  simpa using ht.append (renders_shaped h u hu)

lemma renders_text (h : renderAll scope t = some text) : Renders scope t [text] :=
  ⟨text, h, by simpa using inOrder_append text ""⟩

lemma renderAll_line {ss : List Segment} (h : renderAll scope ss = some text) :
    renderAll scope (line ss) = some (text ++ "\n") :=
  renderAll_append h rfl

lemma renderAll_code (ls : List String) : renderAll scope (code ls) = some (plainLines ls) := by
  simp [code, renderAll, Segment.render]

lemma render_put_natural {path : List String} {n : Nat} (h : scope.find? path = some (.natural n)) :
    (put path).render scope = some (toString n) := by
  simp [put, Segment.render, Expr.eval, h, Json.natural, printed]
  rfl

/-! ## Repetitions -/

lemma concat_map_some (ts : List String) : concat (ts.map some) = some (String.join ts) := by
  induction ts with
  | nil => rfl
  | cons t ts ih => rw [List.map_cons, concat, ih, String.join_cons]; rfl

lemma map_iterations {α : Type} {g : α → Json} {body : Template} {f : Nat → α → String} {length : Nat}
    (xs : List α) (index : Nat)
    (h : ∀ k x, renderAll ((name, g x) :: ("loop", loopValue k length) :: scope) body = some (f k x)) :
    ((iterations scope name length index (xs.map g)).map fun s => renderAll s body) =
      (xs.mapIdx fun k => f (index + k)).map some := by
  induction xs generalizing index with
  | nil => rfl
  | cons x xs ih =>
    rw [List.map_cons, iterations, List.map_cons, h index x, List.mapIdx_cons, List.map_cons, ih (index + 1)]
    simp only [Nat.add_zero, Nat.add_assoc, Nat.add_comm 1]

lemma render_each {α : Type} {g : α → Json} {source : Expr} {body : Template} {f : Nat → α → String}
    {xs : List α} (hs : source.eval scope = some (.list (xs.map g)))
    (h : ∀ k x, renderAll ((name, g x) :: ("loop", loopValue k xs.length) :: scope) body = some (f k x)) :
    (Segment.each name source body []).render scope = some (String.join (xs.mapIdx f)) := by
  cases xs with
  | nil => simp [Segment.render, hs, renderAll]
  | cons x xs =>
    have hmap := map_iterations (x :: xs) 0 h
    rw [List.map_cons] at hs hmap
    rw [Segment.render, hs]
    dsimp only
    rw [List.length_cons, List.length_map, ← List.length_cons, hmap, concat_map_some]
    simp only [Nat.zero_add]

/-! ## The parts -/

structure Describes (scope : Scope) (i : Integral) : Prop where
  name : scope.find? ["integral", "name"] = some (.text i.name)
  signature : scope.find? ["integral", "signature"] = some (.text i.signature)
  dimensions : scope.find? ["integral", "n_dimensions"] = some (.natural i.dimensions)
  lowerBounds : scope.find? ["integral", "lower_bounds"] = some (.texts i.lowerBounds)
  upperBounds : scope.find? ["integral", "upper_bounds"] = some (.texts i.upperBounds)
  integrand : scope.find? ["integral", "integrand", "name"] = some (.text i.integrand.name)

lemma describes_baseContext (i : Integral) (o : GenerationOptions) (extra : Scope) :
    Describes (baseContext i o ++ extra) i := by
  constructor <;> rfl

variable {i : Integral} {type : String}

lemma renderAll_cons {s : Segment} {a b : String} (hs : s.render scope = some a)
    (ht : renderAll scope t = some b) : renderAll scope (s :: t) = some (a ++ b) := by
  rw [renderAll, hs, ht]
  rfl

lemma renderAll_nil : renderAll scope [] = some "" := rfl

lemma render_text (content : String) : (Segment.text content).render scope = some content := rfl

def callText (function : String) (n : Nat) : String :=
  function ++ "(" ++ Text.join ", " ((List.range n).map fun k => "x[" ++ toString k ++ "]") ++ ")"

lemma join_mapIdx {α : Type} (separator : String) (f : α → String) (xs : List α) :
    String.join (xs.mapIdx fun k x => f x ++ if k + 1 = xs.length then "" else separator) =
      Text.join separator (xs.map f) := by
  induction xs with
  | nil => rfl
  | cons x xs ih =>
    rw [List.mapIdx_cons, String.join_cons]
    simp only [List.length_cons, Nat.zero_add, Nat.add_right_cancel_iff]
    rw [ih]
    cases xs with
    | nil => simp [Text.join]
    | cons y ys => simp [Text.join, String.append_assoc]

lemma render_argument (scope : Scope) (n k m : Nat) :
    renderAll (("i", .natural m) :: ("loop", loopValue k n) :: scope)
      [.text "x[", put ["i"], .text "]", .choose (.negation (.path ["loop", "last"])) [.text ", "] []] =
      some ("x[" ++ toString m ++ "]" ++ if k + 1 = n then "" else ", ") := by
  have hlast : (Expr.negation (.path ["loop", "last"])).holds
      (("i", .natural m) :: ("loop", loopValue k n) :: scope) = some (!decide (k + 1 = n)) := rfl
  have hi : (put ["i"]).render (("i", .natural m) :: ("loop", loopValue k n) :: scope) = some (toString m) :=
    render_put_natural rfl
  have hsep : (Segment.choose (.negation (.path ["loop", "last"])) [.text ", "] []).render
      (("i", .natural m) :: ("loop", loopValue k n) :: scope) = some (if k + 1 = n then "" else ", ") := by
    rw [Segment.render, hlast]
    by_cases hk : k + 1 = n
    · simp [hk, renderAll]
    · simp [hk, renderAll, Segment.render]
  rw [renderAll_cons (render_text _) (renderAll_cons hi (renderAll_cons (render_text _)
    (renderAll_cons hsep renderAll_nil)))]
  simp [String.append_assoc]

lemma Describes.render_call (h : Describes scope i) :
    renderAll scope integrandCall = some (callText i.integrand.name i.dimensions) := by
  have hrange : (Expr.range (.literal (.integer 0)) (.path ["integral", "n_dimensions"])).eval scope =
      some (.list ((List.range i.dimensions).map .natural)) := by
    simp only [Expr.eval, h.dimensions, Option.bind_some, rangeOf_natural]
  have hloop := render_each hrange (render_argument scope (List.range i.dimensions).length)
  rw [join_mapIdx] at hloop
  have hname : integrandName.render scope = some i.integrand.name := render_put h.integrand
  delta callText
  simp [integrandCall, renderAll, hname, hloop, render_text, String.append_assoc]

lemma Describes.render_name (h : Describes scope i) : integralName.render scope = some i.name :=
  render_put h.name

lemma Describes.render_signature (h : Describes scope i) : Templates.signature.render scope = some i.signature :=
  render_put h.signature

lemma Describes.render_dimensions (h : Describes scope i) :
    Templates.dimensions.render scope = some (toString i.dimensions) :=
  render_put_natural h.dimensions

lemma Describes.render_callLine (h : Describes scope i) (before : String) :
    renderAll scope (line (.text before :: integrandCall ++ [.text ";"])) =
      some (before ++ callText i.integrand.name i.dimensions ++ ";\n") := by
  rw [renderAll_line (renderAll_append (renderAll_cons (render_text _) h.render_call)
    (renderAll_cons (render_text _) renderAll_nil))]
  simp [String.append_assoc]

lemma Describes.render_arrayLine (h : Describes scope i) (before : String) :
    renderAll scope (line [.text before, Templates.dimensions, .text "];"]) =
      some (before ++ toString i.dimensions ++ "];\n") := by
  simp [line, renderAll, h.render_dimensions, render_text, String.append_assoc]

def wrapperText (i : Integral) : String :=
  ("static double _" ++ i.name ++ "_wrapper(double *x, size_t dim, void *params)\n") ++
    "\x7b\n    (void)dim;\n    (void)params;\n" ++
    ("    return " ++ callText i.integrand.name i.dimensions ++ ";\n") ++ "\x7d\n\n"

lemma Describes.render_wrapper (h : Describes scope i) :
    renderAll scope gslWrapper = some (wrapperText i) := by
  have hhead : renderAll scope (line [.text "static double _", integralName,
      .text "_wrapper(double *x, size_t dim, void *params)"]) =
      some ("static double _" ++ i.name ++ "_wrapper(double *x, size_t dim, void *params)\n") := by
    simp [line, renderAll, h.render_name, render_text, String.append_assoc]
  exact renderAll_append (renderAll_append (renderAll_append hhead (renderAll_code _)) (h.render_callLine _))
    (renderAll_code _)

def boundsText (array : String) (n : Nat) (names : List String) : String :=
  "    double " ++ array ++ "[" ++ toString n ++ "] = \x7b " ++ Text.join ", " names ++ " \x7d;\n"

lemma Describes.render_bounds (h : Describes scope i) {array key : String} {names : List String}
    (hn : scope.find? ["integral", key] = some (.texts names)) :
    renderAll scope (gslBounds array key) = some (boundsText array i.dimensions names) := by
  have hjoin : (Segment.value (.join (.literal (.text ", ")) (.path ["integral", key]))).render scope =
      some (Text.join ", " names) := by
    simp [Segment.render, Expr.eval, hn, Json.texts, joined, printed, Function.comp_def]
  delta boundsText
  simp [gslBounds, line, renderAll, h.render_dimensions, hjoin, render_text, String.append_assoc]

def structText (type : String) (n : Nat) : String :=
  "typedef struct\n\x7b\n" ++ ("    double lower[" ++ toString n ++ "];\n") ++
    ("    double upper[" ++ toString n ++ "];\n") ++ ("\x7d " ++ type ++ ";\n")

lemma Describes.render_struct (h : Describes scope i) (ht : scope.find? ["bounds_type"] = some (.text type)) :
    renderAll scope boundsStruct = some (structText type i.dimensions) := by
  have htype : renderAll scope (line [.text "\x7d ", boundsType, .text ";"]) = some ("\x7d " ++ type ++ ";\n") := by
    have hput : boundsType.render scope = some type := render_put ht
    simp [line, renderAll, hput, render_text, String.append_assoc]
  exact renderAll_append (renderAll_append (renderAll_append (renderAll_code _) (h.render_arrayLine _))
    (h.render_arrayLine _)) htype

def assignmentsText (side : String) (names : List String) : String :=
  String.join (names.mapIdx fun k name => "    bounds." ++ side ++ "[" ++ toString k ++ "] = " ++ name ++ ";\n")

lemma render_assignments {side key : String} {names : List String}
    (hn : scope.find? ["integral", key] = some (.texts names)) :
    renderAll scope (boundAssignments side key) = some (assignmentsText side names) := by
  have heval : (Expr.path ["integral", key]).eval scope = some (.list (names.map .text)) := hn
  have hbody : ∀ k name, renderAll (("name", .text name) :: ("loop", loopValue k names.length) :: scope)
      (line [.text ("    bounds." ++ side ++ "["), put ["loop", "index0"], .text "] = ", put ["name"],
        .text ";"]) = some ("    bounds." ++ side ++ "[" ++ toString k ++ "] = " ++ name ++ ";\n") := by
    intro k name
    have hindex : (put ["loop", "index0"]).render
        (("name", .text name) :: ("loop", loopValue k names.length) :: scope) = some (toString k) :=
      render_put_natural rfl
    have hname : (put ["name"]).render
        (("name", .text name) :: ("loop", loopValue k names.length) :: scope) = some name := render_put rfl
    simp [line, renderAll, hindex, hname, render_text, String.append_assoc]
  rw [boundAssignments, renderAll_cons (render_each heval hbody) renderAll_nil, String.append_empty]
  rfl

def literalsText (bodies : List String) : String :=
  String.join (bodies.map fun b => "\n    \"" ++ b ++ "\"")

def programText (name : String) (bodies : List String) : String :=
  "static const char *_" ++ name ++ "_program_source =" ++ literalsText bodies ++ ";\n"

lemma Describes.render_program (h : Describes scope i) {bodies : List String}
    (hp : scope.find? ["program_lines"] = some (.texts bodies)) :
    renderAll scope programLiteral = some (programText i.name bodies) := by
  have heval : (Expr.path ["program_lines"]).eval scope = some (.list (bodies.map .text)) := hp
  have hbody : ∀ k body, renderAll (("line", .text body) :: ("loop", loopValue k bodies.length) :: scope)
      [.text "\n    \"", put ["line"], .text "\""] = some ("\n    \"" ++ body ++ "\"") := by
    intro k body
    have hline : (put ["line"]).render
        (("line", .text body) :: ("loop", loopValue k bodies.length) :: scope) = some body := render_put rfl
    simp [renderAll, hline, render_text, String.append_assoc]
  have hloop := render_each heval hbody
  have hmap : (bodies.mapIdx fun _ b => "\n    \"" ++ b ++ "\"") = bodies.map fun b => "\n    \"" ++ b ++ "\"" :=
    List.ext_getElem (by simp) (by simp)
  rw [hmap] at hloop
  delta programText literalsText
  simp [programLiteral, line, renderAll, h.render_name, hloop, render_text, String.append_assoc]

end Generation

end Quadrature
