import Quadrature.FunctionDeclaration
import Mathlib.Logic.Function.Basic
import Mathlib.Tactic.SplitIfs

/-! Declarations in use, while files change around them: a text that has been read stays with its declaration
and with the copies made of it, and a reading that fails leaves no trace. -/

namespace Quadrature

namespace FunctionDeclaration

variable {d : FunctionDeclaration} {files later : Store} {t : String}

def reading (d : FunctionDeclaration) (files : Store) : Option String :=
  d.source.bind fun b => (files.readText b.path).toOption.map b.extent.slice

lemma text?_of_unread (h : d.remembered = none) : d.text? files = d.reading files := by
  rw [text?, h, reading]
  cases d.source with
  | none => rfl
  | some b => cases hr : files.readText b.path <;> simp [hr, Except.toOption]

lemma text?_of_remembered (h : d.remembered = some t) : d.text? files = some t := by
  rw [text?, h]

lemma remembered_of_text? (h : d.text? files = none) : d.remembered = none := by
  cases hr : d.remembered with
  | none => rfl
  | some t => rw [text?_of_remembered hr] at h; cases h

lemma recalling_of_none (h : d.text? files = none) : d.recalling files = d := by
  rw [recalling, h, ← remembered_of_text? h]

lemma remembered_recalling (h : d.remembered = some t) : (d.recalling files).remembered = some t :=
  text?_of_remembered h

lemma addDependency_cases (d : FunctionDeclaration) (x : String) :
    (∃ f, d.addDependency x = .error f) ∨
      d.addDependency x = .ok { d with dependencies := d.dependencies ++ [x] } := by
  rw [addDependency]
  split_ifs
  · exact .inl ⟨_, rfl⟩
  · exact .inr rfl

end FunctionDeclaration

structure Workspace where
  files : Store
  held : Nat → FunctionDeclaration

namespace Workspace

inductive Operation where
  | withSource (i : Nat) (path : String) (extent : C.Extent)
  | withText (i : Nat) (text : String)
  | clone (i j : Nat)
  | text (i : Nat)
  | hasBody (i : Nat)
  | addDependency (i : Nat) (dependency : String)
  | changeFiles (files : Store)

namespace Operation

inductive Asks (i : Nat) : Operation → Prop
  | text : Asks i (.text i)
  | hasBody : Asks i (.hasBody i)

inductive Replaces (i : Nat) : Operation → Prop
  | withText (t : String) : Replaces i (.withText i t)
  | clone (j : Nat) : Replaces i (.clone j i)

/-- The number of which the declaration under a number was a copy before the operation. -/
def origin : Operation → Nat → Nat
  | .clone i j, n => if n = j then i else n
  | _, n => n

def added (w : Workspace) : Operation → Nat → List String
  | .addDependency i x, n => if n = i ∧ ((w.held i).addDependency x).isOk = true then [x] else []
  | _, _ => []

/-- Given the declarations that have a text, those that have it from them after the operation: the copies
too, and none that is given another text. -/
def heirs : Operation → (Nat → Prop) → Nat → Prop
  | .clone i j, p => Function.update p j (p i)
  | .withText i _, p => Function.update p i False
  | _, p => p

end Operation

variable {w : Workspace} {i j : Nat} {t : String} {p : Nat → Prop}

def text (w : Workspace) (i : Nat) : Option String := (w.held i).text? w.files

def hasBody (w : Workspace) (i : Nat) : Bool := (w.held i).hasBody w.files

def put (w : Workspace) (i : Nat) (d : FunctionDeclaration) : Workspace :=
  { w with held := Function.update w.held i d }

def step (w : Workspace) : Operation → Workspace
  | .withSource i path extent => w.put i ((w.held i).withSource path extent)
  | .withText i text => w.put i ((w.held i).withText text)
  | .clone i j => w.put j (w.held i)
  | .text i | .hasBody i => w.put i ((w.held i).recalling w.files)
  | .addDependency i x =>
    match (w.held i).addDependency x with
    | .ok d => w.put i d
    | .error _ => w
  | .changeFiles files => { w with files := files }

def run (w : Workspace) (ops : List Operation) : Workspace := ops.foldl step w

def heirsOf (ops : List Operation) (p : Nat → Prop) : Nat → Prop :=
  ops.foldl (fun p op => op.heirs p) p

lemma held_put (w : Workspace) (i n : Nat) (d : FunctionDeclaration) :
    (w.put i d).held n = if n = i then d else w.held n :=
  Function.update_apply w.held i d n

lemma put_held (w : Workspace) (i : Nat) : w.put i (w.held i) = w := by
  rw [put, Function.update_eq_self]

def Remembers (w : Workspace) (t : String) (p : Nat → Prop) : Prop :=
  ∀ n, p n → (w.held n).remembered = some t

lemma Remembers.put {d : FunctionDeclaration} (h : w.Remembers t p)
    (hd : p i → d.remembered = some t) : (w.put i d).Remembers t p := by
  intro n hn
  rw [held_put]
  split_ifs with he
  · exact hd (he ▸ hn)
  · exact h n hn

lemma Remembers.step (h : w.Remembers t p) (op : Operation) : (w.step op).Remembers t (op.heirs p) := by
  cases op with
  | withSource i path extent => exact h.put (h i)
  | withText i text =>
    intro n hn
    rw [Operation.heirs, Function.update_apply] at hn
    rw [Workspace.step, held_put]
    split_ifs at hn ⊢
    exact h n hn
  | clone i j =>
    intro n hn
    rw [Operation.heirs, Function.update_apply] at hn
    rw [Workspace.step, held_put]
    split_ifs at hn ⊢
    · exact h i hn
    · exact h n hn
  | text i | hasBody i => exact h.put fun hi => FunctionDeclaration.remembered_recalling (h i hi)
  | addDependency i x =>
    rcases (w.held i).addDependency_cases x with ⟨f, hf⟩ | hd
    · rw [Workspace.step, hf]
      exact h
    · rw [Workspace.step, hd]
      exact h.put (h i)
  | changeFiles files => exact h

lemma Remembers.run (h : w.Remembers t p) (ops : List Operation) :
    (w.run ops).Remembers t (heirsOf ops p) := by
  induction ops generalizing w p with
  | nil => exact h
  | cons op ops ih => exact ih (h.step op)

lemma remembers_ask {ask : Operation} (ha : ask.Asks i) (ht : w.text i = some t) :
    (w.step ask).Remembers t (· = i) := by
  rintro n rfl
  have hr : ((w.put n ((w.held n).recalling w.files)).held n).remembered = some t := by
    rw [held_put, if_pos rfl]
    exact ht
  cases ha with
  | text => exact hr
  | hasBody => exact hr

lemma step_ask {ask : Operation} (ha : ask.Asks i) (ht : w.text i = none) : w.step ask = w := by
  have hr : w.put i ((w.held i).recalling w.files) = w := by
    rw [FunctionDeclaration.recalling_of_none ht, put_held]
  cases ha with
  | text => exact hr
  | hasBody => exact hr

/-- In the run nothing replaces the declaration or gives it a text, and no question about it finds one. -/
def Unread (w : Workspace) (i : Nat) : List Operation → Prop
  | [] => True
  | op :: ops => ¬ op.Replaces i ∧ (op.Asks i → w.text i = none) ∧ (w.step op).Unread i ops

lemma remembered_step (h : (w.held i).remembered = none) {op : Operation} (hr : ¬ op.Replaces i)
    (ha : op.Asks i → w.text i = none) : ((w.step op).held i).remembered = none := by
  -- what is put under another number does not matter
  have hput : ∀ n d, (n = i → d.remembered = none) → ((w.put n d).held i).remembered = none := by
    intro n d hd
    rw [held_put]
    split_ifs with he
    · exact hd he.symm
    · exact h
  cases op with
  | withSource n path extent =>
    apply hput
    rintro rfl
    exact h
  | withText n text =>
    apply hput
    rintro rfl
    exact absurd (.withText text) hr
  | clone m n =>
    apply hput
    rintro rfl
    exact absurd (.clone m) hr
  | text n =>
    apply hput
    rintro rfl
    exact ha .text
  | hasBody n =>
    apply hput
    rintro rfl
    exact ha .hasBody
  | addDependency n x =>
    rcases (w.held n).addDependency_cases x with ⟨f, hf⟩ | hd
    · rw [Workspace.step, hf]
      exact h
    · rw [Workspace.step, hd]
      apply hput
      rintro rfl
      exact h
  | changeFiles files => exact h

lemma remembered_run (h : (w.held i).remembered = none) {ops : List Operation} (hu : w.Unread i ops) :
    ((w.run ops).held i).remembered = none := by
  induction ops generalizing w with
  | nil => exact h
  | cons op ops ih =>
    obtain ⟨hr, ha, hu⟩ := hu
    exact ih (remembered_step h hr ha) hu

structure Extends (d e : FunctionDeclaration) (added : List String) : Prop where
  name : e.name = d.name
  returnType : e.returnType = d.returnType
  arguments : e.arguments = d.arguments
  dependencies : e.dependencies = d.dependencies ++ added

lemma Extends.refl (d : FunctionDeclaration) : Extends d d [] :=
  ⟨rfl, rfl, rfl, (List.append_nil _).symm⟩

lemma Extends.trans {d e f : FunctionDeclaration} {xs ys : List String} (h : Extends d e xs)
    (h' : Extends e f ys) : Extends d f (xs ++ ys) where
  name := h'.name.trans h.name
  returnType := h'.returnType.trans h.returnType
  arguments := h'.arguments.trans h.arguments
  dependencies := by rw [h'.dependencies, h.dependencies, List.append_assoc]

def originOf : List Operation → Nat → Nat
  | [], n => n
  | op :: ops, n => op.origin (originOf ops n)

def addedBy (w : Workspace) : List Operation → Nat → List String
  | [], _ => []
  | op :: ops, n => op.added w (originOf ops n) ++ (w.step op).addedBy ops n

lemma extends_step (w : Workspace) (op : Operation) (n : Nat) :
    Extends (w.held (op.origin n)) ((w.step op).held n) (op.added w n) := by
  have hput : ∀ i d, Extends (w.held i) d [] → Extends (w.held n) ((w.put i d).held n) [] := by
    intro i d h
    rw [held_put]
    split_ifs with he
    · exact he ▸ h
    · exact .refl _
  cases op with
  | withSource i path extent =>
    apply hput
    exact ⟨rfl, rfl, rfl, (List.append_nil _).symm⟩
  | withText i text =>
    apply hput
    exact ⟨rfl, rfl, rfl, (List.append_nil _).symm⟩
  | clone i j =>
    rw [Workspace.step, held_put, Operation.origin]
    split_ifs
    · exact .refl _
    · exact .refl _
  | text i | hasBody i =>
    apply hput
    exact ⟨rfl, rfl, rfl, (List.append_nil _).symm⟩
  | addDependency i x =>
    rcases (w.held i).addDependency_cases x with ⟨f, hf⟩ | hd
    · rw [Workspace.step, Operation.added, hf, if_neg (fun h => Bool.false_ne_true h.2)]
      exact .refl _
    · rw [Workspace.step, Operation.added, hd, held_put]
      by_cases hn : n = i
      · subst hn
        rw [if_pos rfl, if_pos ⟨rfl, rfl⟩]
        exact ⟨rfl, rfl, rfl, rfl⟩
      · rw [if_neg hn, if_neg (fun h => hn h.1)]
        exact .refl _
  | changeFiles files => exact .refl _

lemma extends_run (w : Workspace) (ops : List Operation) (n : Nat) :
    Extends (w.held (originOf ops n)) ((w.run ops).held n) (w.addedBy ops n) := by
  induction ops generalizing w with
  | nil => exact .refl _
  | cons op ops ih => exact (extends_step w op (originOf ops n)).trans (ih (w.step op))

theorem text_is_read_once (w : Workspace) (i : Nat) :
    (∀ t ask ops n, w.text i = some t → ask.Asks i → heirsOf ops (· = i) n →
      ((w.step ask).run ops).text n = some t ∧
        ((w.step ask).run ops).hasBody n = (t ≠ "" && !isPrototypeText t)) ∧
    (w.text i = none → (∀ ask, ask.Asks i → w.step ask = w) ∧
      ∀ ops, w.Unread i ops → (w.run ops).text i = ((w.run ops).held i).reading (w.run ops).files) ∧
    ∀ ops n, Extends (w.held (originOf ops n)) ((w.run ops).held n) (w.addedBy ops n) := by
  refine ⟨fun t ask ops n ht ha hn => ?_, fun ht => ⟨fun ask ha => step_ask ha ht, fun ops hu => ?_⟩,
    extends_run w⟩
  · have hr := ((remembers_ask ha ht).run ops) n hn
    refine ⟨FunctionDeclaration.text?_of_remembered hr, ?_⟩
    rw [hasBody, FunctionDeclaration.hasBody, FunctionDeclaration.text?_of_remembered hr]
  · have hr := remembered_run (FunctionDeclaration.remembered_of_text? ht) hu
    exact FunctionDeclaration.text?_of_unread hr

/-- A copy keeps the text that has been read when the file is gone, the copy is bound to another place and
the first declaration has got another text; one that could not be read is read later. -/
theorem text_is_read_once_by_copies :
    let e : C.Extent := ⟨1, 1, 1, 12⟩
    let files : Store := { entries := [(["a.h"], .text "int f(int);\n")] }
    let f : FunctionDeclaration := { name := "f", returnType := "int", arguments := [⟨"int", ""⟩] }
    let w : Workspace := ⟨files, fun n => if n = 0 then f.withSource "a.h" e else f⟩
    let frozen := (w.step (.text 0)).run
      [.changeFiles {}, .clone 0 2, .withSource 2 "b.h" e, .withText 0 "int f(int x) \x7b\x7d"]
    let late := w.run [.hasBody 1, .changeFiles {}, .text 1, .changeFiles files, .withSource 1 "a.h" e]
    w.text 0 = some "int f(int);" ∧ frozen.text 2 = some "int f(int);" ∧ frozen.hasBody 2 = false ∧
      w.text 1 = none ∧ w.step (.text 1) = w ∧ late.text 1 = some "int f(int);" := by
  intro e files f w frozen late
  have h₀ : w.text 0 = some "int f(int);" := by decide +kernel
  have h₁ : w.text 1 = none := rfl
  have hu : w.Unread 1 [.hasBody 1, .changeFiles {}, .text 1, .changeFiles files, .withSource 1 "a.h" e] := by
    refine ⟨?_, fun _ => rfl, ?_, ?_, ?_, fun _ => rfl, ?_, ?_, ?_, ?_, trivial⟩
    all_goals intro h
    all_goals cases h
  have hheir : heirsOf [.changeFiles {}, .clone 0 2, .withSource 2 "b.h" e,
      .withText 0 "int f(int x) \x7b\x7d"] (· = 0) 2 := by
    simp [heirsOf, Operation.heirs]
  obtain ⟨htext, hbody⟩ := (text_is_read_once w 0).1 _ _ _ _ h₀ .text hheir
  obtain ⟨hstep, hlate⟩ := (text_is_read_once w 1).2.1 h₁
  refine ⟨h₀, htext, ?_, h₁, hstep _ .text, ?_⟩
  · rw [hbody]
    decide +kernel
  · rw [hlate _ hu]
    decide +kernel

end Workspace

end Quadrature
