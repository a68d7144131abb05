import Quadrature.Proofs.AliasFree

/-! Aliases around a type and the decay of parameter types. What a type stands for, what it returns, takes and is
called, and what it decays to depend on the type behind its aliases only. -/

namespace Quadrature.C

lemma Kind.spelled_eq_pointer {k : Kind} : k.spelled = "pointer" ↔ k = .pointer := by
  cases k <;> decide

namespace CType

/-- A type behind any number of aliases. Each of them is defined for the type behind it, or for what that one
stands for. -/
inductive Aliased (t : CType) : CType → Prop
  | itself : Aliased t t
  | layer {u : CType} (name : String) (h : Aliased t u) : Aliased t (.named name u)
  | resolved {u : CType} (name : String) (h : Aliased t u) : Aliased t (.named name u.canonical)

lemma canonical_canonical (t : CType) : t.canonical.canonical = t.canonical := by
  fun_induction canonical t with
  | case1 name t ih => exact ih
  | case2 t ht => rw [canonical]; exact ht

lemma aliased_canonical (t : CType) : t.canonical.Aliased t := by
  fun_induction canonical t with
  | case1 name t ih => exact .layer name ih
  | case2 t ht => exact .itself

lemma Aliased.canonical_eq {t u : CType} (h : t.Aliased u) : u.canonical = t.canonical := by
  induction h with
  | itself => rfl
  | layer name _ ih => exact ih
  | resolved name _ ih => exact (canonical_canonical _).trans ih

/-! ## Decay -/

lemma decayed_cases (t : CType) :
    (t.isArray = true ∨ t.isFunction = true) ∧ (∃ u, t.decayed = .pointer u) ∨
      (t.isArray = false ∧ t.isFunction = false) ∧ t.decayed = t := by
  rw [isArray, isFunction, decayed]
  cases h : t.canonical with
  | named name u => exact absurd h (canonical_ne_named t name u)
  | pointer u => exact .inr ⟨⟨rfl, rfl⟩, rfl⟩
  | array e sized =>
    refine .inl ⟨.inl ?_, e, rfl⟩
    cases sized <;> rfl
  | function r as prototyped =>
    refine .inl ⟨.inr ?_, _, rfl⟩
    cases prototyped <;> rfl
  | basic k spelling =>
    -- a kind alone may be an array's or a function's
    simp only [kind]
    cases ha : k.isArray with
    | true => exact .inl ⟨.inl rfl, _, if_pos rfl⟩
    | false =>
      cases hf : k.isFunction with
      | true => exact .inl ⟨.inr rfl, basic k spelling, rfl⟩
      | false => exact .inr ⟨⟨rfl, rfl⟩, rfl⟩

lemma canonical_decayed (t : CType) : t.decayed.canonical = t.canonical.decayed := by
  rw [decayed, decayed, canonical_canonical]
  cases h : t.canonical with
  | named name u => exact absurd h (canonical_ne_named t name u)
  | pointer u => exact h
  | array e sized => rfl
  | function r as prototyped => rfl
  | basic k spelling =>
    simp only
    split_ifs
    · rfl
    · rfl
    · exact h

lemma decayed_decayed (t : CType) : t.decayed.decayed = t.decayed := by
  obtain ⟨-, u, hu⟩ | ⟨-, ht⟩ := t.decayed_cases
  · rw [hu]
    rfl
  · rw [ht, ht]

lemma not_isArray_or_isFunction_decayed (t : CType) :
    t.decayed.isArray = false ∧ t.decayed.isFunction = false := by
  obtain ⟨-, u, hu⟩ | ⟨hn, ht⟩ := t.decayed_cases
  · rw [hu]
    exact ⟨rfl, rfl⟩
  · rw [ht]
    exact hn

def IsAddress (t : CType) : Prop :=
  t.isArray = true ∨ t.isFunction = true ∨ t.canonical.kind = .pointer

lemma name_decayed_eq_pointer {t : CType} : t.decayed.name = "pointer" ↔ t.IsAddress := by
  obtain ⟨hor, u, hu⟩ | ⟨⟨ha, hf⟩, ht⟩ := t.decayed_cases
  · rw [hu, IsAddress, ← or_assoc]
    exact ⟨fun _ => .inl hor, fun _ => rfl⟩
  · rw [ht, IsAddress, ha, hf, name, Kind.spelled_eq_pointer]
    simp

lemma decayed_of_not_isAddress {t : CType} (h : ¬ t.IsAddress) : t.decayed = t := by
  obtain ⟨hor, -⟩ | ⟨-, ht⟩ := t.decayed_cases
  · exact absurd (or_assoc.mp (.inl hor)) h
  · exact ht

/-- Every type is its canonical type behind aliases, and no canonical type is an alias. More aliases change
nothing that is seen through them. Decayed types are no arrays or functions and do not decay again; they are
called pointers exactly if the type is an array, a function or a pointer, and else as before. -/
theorem types_are_seen_through_aliases (t : CType) :
    (t.canonical.canonical = t.canonical ∧ t.canonical.Aliased t ∧ ∀ name u, t.canonical ≠ .named name u) ∧
    (∀ u, t.Aliased u → u.canonical = t.canonical ∧ u.result? = t.result? ∧ u.arguments = t.arguments ∧
      u.name = t.name ∧ u.decayed.canonical = t.decayed.canonical) ∧
    (t.decayed.decayed = t.decayed ∧ t.decayed.isArray = false ∧ t.decayed.isFunction = false) ∧
    (t.decayed.name = "pointer" ↔ t.IsAddress) ∧ (¬ t.IsAddress → t.decayed = t ∧ t.decayed.name = t.name) := by
  refine ⟨⟨t.canonical_canonical, t.aliased_canonical, t.canonical_ne_named⟩, ?_,
    ⟨t.decayed_decayed, t.not_isArray_or_isFunction_decayed⟩, name_decayed_eq_pointer, ?_⟩
  · intro u hu
    have hc := hu.canonical_eq
    refine ⟨hc, ?_, ?_, ?_, ?_⟩
    · rw [result?, hc, result?]
    · rw [arguments, hc, arguments]
    · rw [name, hc, name]
    · rw [canonical_decayed, hc, canonical_decayed]
  · intro h
    have hd := decayed_of_not_isAddress h
    exact ⟨hd, congrArg name hd⟩

theorem types_are_seen_through_aliases_of_function :
    let f := CType.function (.named "real" (.basic .double "double")) [.pointer .int] true
    let u := CType.named "callback" (.named "unary" f)
    f.Aliased u ∧ u.canonical = f ∧ u.result? = some (.named "real" (.basic .double "double")) ∧
      u.decayed.canonical = .pointer f ∧ u.name = "functionproto" ∧ u.decayed.name = "pointer" := by
  intro f u
  have hu : f.Aliased u := .layer "callback" (.resolved "unary" .itself)
  obtain ⟨-, hsame, -⟩ := types_are_seen_through_aliases f
  obtain ⟨hcanonical, hresult, -, hname, hdecayed⟩ := hsame u hu
  obtain ⟨-, -, -, hpointer, -⟩ := types_are_seen_through_aliases u
  exact ⟨hu, hcanonical, hresult, hdecayed, hname, hpointer.mpr (.inr (.inl rfl))⟩

end CType

end Quadrature.C
