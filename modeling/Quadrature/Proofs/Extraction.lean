import Quadrature.SourceFile
import Mathlib.Data.List.Forall2

/-! The walk with a list of pending nodes records the outermost functions of an outline in order. -/

namespace Quadrature

namespace C

mutual

/-- The functions of an outline that stand in no other function. -/
def Node.functions : Node → List Node
  | ⟨kind, spelling, type, extent, children⟩ =>
    if kind = .function then [⟨kind, spelling, type, extent, children⟩] else functionsIn children

def functionsIn : List Node → List Node
  | [] => []
  | n :: ns => n.functions ++ functionsIn ns

end

lemma Node.functions_of_function {n : Node} (h : n.kind = .function) : n.functions = [n] := by
  cases n
  simp only [Node.functions]
  exact if_pos h

lemma Node.functions_of_ne {n : Node} (h : n.kind ≠ .function) :
    n.functions = functionsIn n.children := by
  cases n
  simp only [Node.functions]
  exact if_neg h

lemma Node.count_eq (n : Node) : n.count = countNodes n.children + 1 := by
  cases n
  simp only [Node.count]

lemma functionsIn_append (ms ns : List Node) :
    functionsIn (ms ++ ns) = functionsIn ms ++ functionsIn ns := by
  induction ms with
  | nil => rfl
  | cons m ms ih => simp only [List.cons_append, functionsIn, ih, List.append_assoc]

lemma outlineItems_append (aliases : Aliases) (xs ys : List Item) :
    outlineItems aliases (xs ++ ys) =
      ((outlineItems aliases xs).1 ++ (outlineItems (outlineItems aliases xs).2 ys).1,
        (outlineItems (outlineItems aliases xs).2 ys).2) := by
  induction xs generalizing aliases with
  | nil => simp only [outlineItems, List.nil_append]
  | cons x xs ih => simp only [List.cons_append, outlineItems, ih, List.append_assoc]

mutual

lemma Node.functions_map {f : Node → Node} (hk : ∀ n, (f n).kind = n.kind)
    (hc : ∀ n, (f n).children = n.children.map f) : (n : Node) → (f n).functions = n.functions.map f
  | ⟨kind, spelling, type, extent, children⟩ => by
    by_cases h : kind = .function
    · rw [Node.functions_of_function ((hk _).trans h), Node.functions_of_function h, List.map_singleton]
    · rw [Node.functions_of_ne (fun he => h ((hk _).symm.trans he)), Node.functions_of_ne h, hc,
        functionsIn_map hk hc children]

lemma functionsIn_map {f : Node → Node} (hk : ∀ n, (f n).kind = n.kind)
    (hc : ∀ n, (f n).children = n.children.map f) :
    (ns : List Node) → functionsIn (ns.map f) = (functionsIn ns).map f
  | [] => rfl
  | n :: ns => by
    rw [List.map_cons, functionsIn, functionsIn, n.functions_map hk hc, functionsIn_map hk hc ns, List.map_append]

end

lemma countNodes_append (ms ns : List Node) :
    countNodes (ms ++ ns) = countNodes ms + countNodes ns := by
  induction ms with
  | nil => simp [countNodes]
  | cons m ms ih => simp only [List.cons_append, countNodes, ih, Nat.add_assoc]

end C

namespace Extraction

open C

lemma visit_eq (path : String) (fuel : Nat) (pending : List Node) (found : List FunctionDeclaration)
    (h : countNodes pending ≤ fuel) :
    visit path fuel pending found =
      (found.reverse ++ ·) <$> (functionsIn pending).mapM (record path) := by
  induction fuel generalizing pending found with
  | zero =>
    cases pending with
    | nil => simp [visit, functionsIn, pure, Except.pure, Functor.map, Except.map]
    | cons n pending =>
      rw [countNodes, n.count_eq] at h
      omega
  | succ fuel ih =>
    cases pending with
    | nil => simp [visit, functionsIn, pure, Except.pure, Functor.map, Except.map]
    | cons n pending =>
      rw [countNodes, n.count_eq] at h
      by_cases hk : n.kind = .function
      · have hh : countNodes pending ≤ fuel := by omega
        simp only [visit, hk, if_pos, functionsIn, Node.functions_of_function hk,
          List.singleton_append, List.mapM_cons]
        cases hr : record path n with
        | error f => rfl
        | ok d =>
          simp only [ih pending (d :: found) hh]
          cases hm : (functionsIn pending).mapM (record path) with
          | error f => rfl
          | ok ds => simp [Functor.map, Except.map, bind, Except.bind, pure, Except.pure]
      · have hh : countNodes (n.children ++ pending) ≤ fuel := by
          rw [countNodes_append]
          omega
        simp only [visit, hk, if_neg, not_false_eq_true, ih _ found hh, functionsIn,
          functionsIn_append, Node.functions_of_ne hk]

lemma declarations_eq (path : String) (root : Node) :
    declarations path root = root.functions.mapM (record path) := by
  have hc : countNodes [root] ≤ root.count := by simp [countNodes]
  rw [declarations, visit_eq path root.count [root] [] hc]
  simp [functionsIn]

lemma record_of_counts_ne (path : String) {n : Node}
    (h : n.parameterNames.length ≠ n.argumentTypeNames.length) :
    record path n =
      .error (.parameterCounts path n.spelling n.parameterNames.length n.argumentTypeNames.length) :=
  if_pos h

lemma record_of_unnamed (path : String) {n : Node}
    (h : n.parameterNames.length = n.argumentTypeNames.length) (hn : n.spelling = "") :
    record path n = .error .declarationUnnamed := by
  simp only [record, FunctionDeclaration.make, if_neg (not_not.mpr h), if_pos hn]

lemma record_of_named (path : String) {n : Node}
    (h : n.parameterNames.length = n.argumentTypeNames.length) (hn : n.spelling ≠ "") :
    record path n =
      .ok { name := n.spelling, returnType := n.returnTypeName,
            arguments := n.argumentTypeNames.zipWith Argument.mk n.parameterNames,
            source := some ⟨path, n.extent⟩ } := by
  simp only [record, FunctionDeclaration.make, if_neg (not_not.mpr h), if_neg hn,
    if_neg (not_not.mpr h.symm), FunctionDeclaration.withSource]

lemma record_ok {path : String} {n : Node} {d : FunctionDeclaration} (h : record path n = .ok d) :
    n.parameterNames.length = n.argumentTypeNames.length ∧
      d = { name := n.spelling, returnType := n.returnTypeName,
            arguments := n.argumentTypeNames.zipWith Argument.mk n.parameterNames,
            source := some ⟨path, n.extent⟩ } := by
  by_cases hc : n.parameterNames.length = n.argumentTypeNames.length
  · by_cases hn : n.spelling = ""
    · rw [record_of_unnamed path hc hn] at h
      cases h
    · rw [record_of_named path hc hn] at h
      exact ⟨hc, (Except.ok.inj h).symm⟩
  · rw [record_of_counts_ne path hc] at h
    cases h

lemma mapM_ok {ε α β : Type} {f : α → Except ε β} {xs : List α} (h : ∀ x ∈ xs, ∃ y, f x = .ok y) :
    ∃ ys, xs.mapM f = .ok ys := by
  induction xs with
  | nil => exact ⟨[], rfl⟩
  | cons x xs ih =>
    obtain ⟨y, hy⟩ := h x List.mem_cons_self
    obtain ⟨ys, hys⟩ := ih fun z hz => h z (List.mem_cons_of_mem x hz)
    exact ⟨y :: ys, by rw [List.mapM_cons, hy, hys]; rfl⟩

lemma forall₂_of_mapM {ε α β : Type} {f : α → Except ε β} {xs : List α} {ys : List β}
    (h : xs.mapM f = .ok ys) : List.Forall₂ (fun x y => f x = .ok y) xs ys := by
  induction xs generalizing ys with
  | nil =>
    obtain rfl := Except.ok.inj h
    exact .nil
  | cons x xs ih =>
    rw [List.mapM_cons] at h
    cases hx : f x with
    | error e => simp [hx, bind, Except.bind] at h
    | ok y =>
      cases hxs : xs.mapM f with
      | error e => simp [hx, hxs, bind, Except.bind] at h
      | ok zs =>
        simp only [hx, hxs, bind, Except.bind, pure, Except.pure, Except.ok.injEq] at h
        subst h
        exact .cons hx (ih hxs)

end Extraction

lemma bind_eq_ok_iff {α β : Type} {x : Except Failure α} {g : α → Except Failure β} {b : β} :
    x >>= g = .ok b ↔ ∃ a, x = .ok a ∧ g a = .ok b := by
  cases x with
  | error f => simp [bind, Except.bind]
  | ok a => simp [bind, Except.bind]

lemma bind_ok {α β : Type} {x : Except Failure α} {g : α → Except Failure β} {b : β}
    (h : x >>= g = .ok b) : ∃ a, x = .ok a ∧ g a = .ok b :=
  bind_eq_ok_iff.mp h

lemma FunctionDeclaration.addDependency_eq_ok_iff {d e : FunctionDeclaration} {dependency : String} :
    d.addDependency dependency = .ok e ↔
      Text.trim dependency ≠ "" ∧ e = { d with dependencies := d.dependencies ++ [dependency] } := by
  rw [addDependency]
  split_ifs with hblank
  · simp [hblank]
  · simp [hblank, eq_comm]

lemma Store.entry_of_readText {files : Store} {path content : String}
    (h : files.readText path = .ok content) : files.entry path = .ok (.text content) := by
  unfold Store.readText at h
  split at h <;> simp_all

lemma SourceFile.checkPath_of_readText {files : Store} {path content : String}
    (h : files.readText path = .ok content) : SourceFile.checkPath files path = .ok () := by
  have he := Store.entry_of_readText h
  have hne : path ≠ "" := by
    rintro rfl
    simp [Store.entry, Store.locate, Store.checkPath] at he
  simp [SourceFile.checkPath, Store.pathExists, Store.isFile, hne, he]

lemma SourceFile.load_eq {files : Store} {path content : String}
    (h : files.readText path = .ok content) :
    SourceFile.load files path = match C.readSource content with
      | .error e => .error (.inFile path (.syntaxError e.line))
      | .ok root => (SourceFile.mk path) <$> Extraction.declarations path root := by
  simp only [SourceFile.load, SourceFile.loadWith, SourceFile.checkPath_of_readText h,
    FrontEnd.readFile, h, FrontEnd.c]
  cases C.readSource content with
  | error e => rfl
  | ok root => cases hd : Extraction.declarations path root <;> simp only [hd] <;> rfl

lemma SourceFile.readText_of_load {files : Store} {path : String} {s : SourceFile}
    (h : SourceFile.load files path = .ok s) : ∃ content, files.readText path = .ok content := by
  unfold SourceFile.load SourceFile.loadWith FrontEnd.readFile at h
  cases hr : files.readText path with
  | ok content => exact ⟨content, rfl⟩
  | error e =>
    rw [hr] at h
    split at h <;> exact nomatch h

end Quadrature
