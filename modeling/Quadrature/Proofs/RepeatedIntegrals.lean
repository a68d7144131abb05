import Quadrature.Proofs.GeneratedCode
import Quadrature.Proofs.IntegralNames

/-! Integrals of integrals. The integral of a function of `n` arguments takes `2 * n + 1`: the bounds of every
argument in turn, and the pointer that receives the error. The integral is a function again, so that it has an
integral, and that one too. -/

namespace Quadrature.Integral

variable {d : FunctionDeclaration} {name : Option String} {names : List (Option String)} {i : Integral}
  {is : List Integral}

lemma chooseName_eq_ok_iff {n : String} :
    chooseName d name = .ok n ↔
      (∀ s ∈ name, Identifier.IsName s) ∧ n = name.getD (d.name ++ "_integral") := by
  cases name with
  | none =>
    rw [chooseName, Except.ok.injEq]
    simp [eq_comm]
  | some s =>
    rw [chooseName]
    cases hc : Identifier.check s with
    | ok u =>
      have hs := Identifier.check_eq_ok_iff.mp hc
      simp [hs, eq_comm]
    | error f =>
      have hs : ¬ Identifier.IsName s := by
        rw [← Identifier.check_eq_ok_iff, hc]
        simp
      simp [hs]

/-! ## Bounds in turn -/

lemma getElem?_boundsFrom (as : List Argument) (index k : Nat) :
    (boundsFrom index as)[2 * k]? =
        as[k]?.map (fun a => ⟨a.type, boundBase (index + k) a.name ++ "_min"⟩) ∧
      (boundsFrom index as)[2 * k + 1]? =
        as[k]?.map (fun a => ⟨a.type, boundBase (index + k) a.name ++ "_max"⟩) := by
  induction as generalizing index k with
  | nil => exact ⟨rfl, rfl⟩
  | cons a as ih =>
    rw [boundsFrom, bounds]
    cases k with
    | zero => exact ⟨rfl, rfl⟩
    | succ k =>
      obtain ⟨hmin, hmax⟩ := ih (index + 1) k
      rw [Nat.add_right_comm] at hmin hmax
      exact ⟨hmin, hmax⟩

lemma alternate_cons {α : Type} (x : α) (xs : List α) : alternate (x :: xs) = x :: alternate (xs.drop 1) := by
  cases xs with
  | nil => rfl
  | cons y ys => rfl

def interleaved {α : Type} (xs ys : List α) : List α := (xs.zip ys).flatMap fun p => [p.1, p.2]

lemma interleaved_alternate {α : Type} (xs : List α) (h : xs.length % 2 = 0) :
    interleaved (alternate xs) (alternate (xs.drop 1)) = xs := by
  induction xs using alternate.induct with
  | case1 => rfl
  | case2 x => cases h
  | case3 x y xs ih =>
    have hx : xs.length % 2 = 0 := by
      rw [List.length_cons, List.length_cons] at h
      omega
    rw [alternate, List.drop_one, List.tail_cons, alternate_cons, interleaved, List.zip_cons_cons,
      List.flatMap_cons]
    exact congrArg ([x, y] ++ ·) (ih hx)

/-! ## One integral -/

structure IntegralOf (d : FunctionDeclaration) (name : Option String) (i : Integral) : Prop where
  integrand : i.integrand = d
  name : i.name = name.getD (d.name ++ "_integral")
  returnType : i.returnType = d.returnType
  dimensions : i.dimensions = d.arity
  counts : i.declaration.argumentTypes.length = 2 * d.arity + 1 ∧
    i.declaration.argumentNames.length = 2 * d.arity + 1 ∧ i.defaults.length = 2 * d.arity + 1
  types : ∀ k t, d.argumentTypes[k]? = some t →
    i.declaration.argumentTypes[2 * k]? = some t ∧ i.declaration.argumentTypes[2 * k + 1]? = some t
  names : ∀ k n, d.argumentNames[k]? = some n →
    let base := if n = "" then "var_" ++ toString (k + 1) else n
    i.declaration.argumentNames[2 * k]? = some (base ++ "_min") ∧
      i.declaration.argumentNames[2 * k + 1]? = some (base ++ "_max")
  error : i.declaration.argumentTypes.getLast? = some (d.returnType ++ " *") ∧
    i.declaration.argumentNames.getLast? = some "error"
  defaults : i.defaults.getLast? = some (some "NULL") ∧ ∀ default ∈ i.defaults.dropLast, default = none
  bounds : i.lowerBounds.length = d.arity ∧ i.upperBounds.length = d.arity ∧
    interleaved i.lowerBounds i.upperBounds = i.declaration.argumentNames.dropLast

lemma exists_derive_eq_ok_iff :
    (∃ i, derive d name = .ok i) ↔ ∀ s ∈ name, Identifier.IsName s := by
  constructor
  · rintro ⟨i, h⟩
    exact (chooseName_eq_ok_iff.mp (derive_eq_ok h).1).1
  · intro h
    have hc : chooseName d name = .ok (name.getD (d.name ++ "_integral")) := chooseName_eq_ok_iff.mpr ⟨h, rfl⟩
    rw [derive, hc]
    exact ⟨_, rfl⟩

lemma dimensions_of_derive (h : derive d name = .ok i) : i.dimensions = d.arity := by
  have hb := (built_of_derive h).dimensions
  rw [length_boundsFrom] at hb
  exact (Nat.eq_of_mul_eq_mul_left (by decide) hb).symm

lemma arity_of_derive (h : derive d name = .ok i) : i.declaration.arity = 2 * d.arity + 1 := by
  rw [FunctionDeclaration.arity, (built_of_derive h).arguments, List.length_append, length_boundsFrom]
  rfl

lemma getElem?_arguments_of_derive (h : derive d name = .ok i) {k : Nat} {a : Argument}
    (ha : d.arguments[k]? = some a) :
    i.declaration.arguments[2 * k]? = some ⟨a.type, boundBase k a.name ++ "_min"⟩ ∧
      i.declaration.arguments[2 * k + 1]? = some ⟨a.type, boundBase k a.name ++ "_max"⟩ := by
  have hk : k < d.arguments.length := (List.getElem?_eq_some_iff.mp ha).1
  have hl := length_boundsFrom d.arguments 0
  obtain ⟨hmin, hmax⟩ := getElem?_boundsFrom d.arguments 0 k
  rw [ha, Nat.zero_add] at hmin hmax
  rw [(built_of_derive h).arguments, List.getElem?_append_left (by omega), List.getElem?_append_left (by omega)]
  exact ⟨hmin, hmax⟩

lemma interleaved_bounds_of_derive (h : derive d name = .ok i) :
    interleaved i.lowerBounds i.upperBounds = i.declaration.argumentNames.dropLast := by
  have hb := built_of_derive h
  have hnames : i.declaration.argumentNames = (boundsFrom 0 d.arguments).map Argument.name ++ [errorName] := by
    rw [FunctionDeclaration.argumentNames, hb.arguments, List.map_append, List.map_singleton]
  have hboundNames : i.boundNames = (boundsFrom 0 d.arguments).map Argument.name := by
    rw [boundNames, hnames, ← hb.dimensions, List.take_left' (List.length_map _)]
  rw [lowerBounds, upperBounds, hboundNames, hnames, List.dropLast_concat]
  apply interleaved_alternate
  rw [List.length_map, length_boundsFrom]
  omega

lemma integralOf_of_derive (h : derive d name = .ok i) : IntegralOf d name i := by
  obtain ⟨hchoose, hintegrand, hreturn, -⟩ := derive_eq_ok h
  have hb := built_of_derive h
  have hn := dimensions_of_derive h
  have harity := arity_of_derive h
  refine ⟨hintegrand, (chooseName_eq_ok_iff.mp hchoose).2, hreturn, hn, ⟨?_, ?_, ?_⟩, ?_, ?_, ⟨?_, ?_⟩, ⟨?_, ?_⟩, ?_⟩
  · rw [← harity, FunctionDeclaration.argumentTypes, List.length_map, FunctionDeclaration.arity]
  · rw [← harity, FunctionDeclaration.argumentNames, List.length_map, FunctionDeclaration.arity]
  · rw [hb.defaults, List.length_append, List.length_replicate, hb.dimensions, hn]
    rfl
  · intro k t ht
    simp only [FunctionDeclaration.argumentTypes, List.getElem?_map, Option.map_eq_some_iff] at ht ⊢
    obtain ⟨a, ha, rfl⟩ := ht
    obtain ⟨hmin, hmax⟩ := getElem?_arguments_of_derive h ha
    exact ⟨⟨_, hmin, rfl⟩, _, hmax, rfl⟩
  · intro k n hk
    simp only [FunctionDeclaration.argumentNames, List.getElem?_map, Option.map_eq_some_iff] at hk ⊢
    obtain ⟨a, ha, rfl⟩ := hk
    obtain ⟨hmin, hmax⟩ := getElem?_arguments_of_derive h ha
    exact ⟨⟨_, hmin, rfl⟩, _, hmax, rfl⟩
  · rw [FunctionDeclaration.argumentTypes, hb.arguments, List.map_append, List.map_singleton, List.getLast?_concat]
  · rw [FunctionDeclaration.argumentNames, hb.arguments, List.map_append, List.map_singleton, List.getLast?_concat]
    rfl
  · rw [hb.defaults, List.getLast?_concat]
    rfl
  · rw [hb.defaults, List.dropLast_concat]
    exact fun default hd => List.eq_of_mem_replicate hd
  · obtain ⟨hlower, hupper⟩ := hb.length_bounds
    exact ⟨hlower.trans hn, hupper.trans hn, interleaved_bounds_of_derive h⟩

/-! ## Integrals of integrals -/

def deriveAll (d : FunctionDeclaration) : List (Option String) → Except Failure (List Integral)
  | [] => .ok []
  | name :: names => do
    let i ← derive d name
    let is ← deriveAll i.declaration names
    return i :: is

/-- Each of some integrals is the integral of the one before it, and the first that of a function. -/
inductive Tower : FunctionDeclaration → List (Option String) → List Integral → Prop
  | nil {d : FunctionDeclaration} : Tower d [] []
  | cons {d : FunctionDeclaration} {name : Option String} {names : List (Option String)} {i : Integral}
      {is : List Integral} (h : IntegralOf d name i) (hs : Tower i.declaration names is) :
      Tower d (name :: names) (i :: is)

lemma deriveAll_cons_eq_ok_iff :
    deriveAll d (name :: names) = .ok is ↔
      ∃ i rest, derive d name = .ok i ∧ deriveAll i.declaration names = .ok rest ∧ is = i :: rest := by
  rw [deriveAll]
  constructor
  · intro hs
    obtain ⟨i, hi, hs⟩ := bind_ok hs
    obtain ⟨rest, hrest, hs⟩ := bind_ok hs
    exact ⟨i, rest, hi, hrest, (Except.ok.inj hs).symm⟩
  · rintro ⟨i, rest, hi, hrest, rfl⟩
    rw [hi]
    show deriveAll i.declaration names >>= _ = _
    rw [hrest]
    rfl

lemma exists_deriveAll_eq_ok_iff :
    (∃ is, deriveAll d names = .ok is) ↔ ∀ s, some s ∈ names → Identifier.IsName s := by
  induction names generalizing d with
  | nil => exact ⟨fun _ s hs => absurd hs List.not_mem_nil, fun _ => ⟨[], rfl⟩⟩
  | cons name names ih =>
    constructor
    · rintro ⟨is, h⟩ s hs
      obtain ⟨i, rest, hi, hrest, -⟩ := deriveAll_cons_eq_ok_iff.mp h
      obtain rfl | hs := List.mem_cons.mp hs
      · exact exists_derive_eq_ok_iff.mp ⟨i, hi⟩ s rfl
      · exact ih.mp ⟨rest, hrest⟩ s hs
    · intro h
      obtain ⟨i, hi⟩ := exists_derive_eq_ok_iff.mpr fun s hs => h s (hs ▸ List.mem_cons_self)
      obtain ⟨rest, hrest⟩ := ih.mpr fun s hs => h s (List.mem_cons_of_mem name hs)
      exact ⟨i :: rest, deriveAll_cons_eq_ok_iff.mpr ⟨i, rest, hi, hrest, rfl⟩⟩

lemma tower_of_deriveAll (h : deriveAll d names = .ok is) : Tower d names is := by
  induction names generalizing d is with
  | nil =>
    obtain rfl := Except.ok.inj h
    exact .nil
  | cons name names ih =>
    obtain ⟨i, rest, hi, hrest, rfl⟩ := deriveAll_cons_eq_ok_iff.mp h
    exact .cons (integralOf_of_derive hi) (ih hrest)

lemma Tower.length (h : Tower d names is) : is.length = names.length := by
  induction h with
  | nil => rfl
  | cons _ _ ih => rw [List.length_cons, List.length_cons, ih]

lemma Tower.arity (h : Tower d names is) {k : Nat} (hk : is[k]? = some i) :
    i.declaration.arity + 1 = 2 ^ (k + 1) * (d.arity + 1) := by
  induction h generalizing k with
  | nil => cases hk
  | @cons d name names j is hj _ ih =>
    have hfirst : j.declaration.arity + 1 = 2 * (d.arity + 1) := by
      have hc := hj.counts.1
      rw [FunctionDeclaration.argumentTypes, List.length_map] at hc
      rw [FunctionDeclaration.arity, hc]
      omega
    cases k with
    | zero =>
      obtain rfl := Option.some.inj hk
      exact hfirst
    | succ k => rw [ih hk, hfirst, ← Nat.mul_assoc]; rfl

lemma exists_error_iff {α : Type} {x : Except Failure α} : (∃ f, x = .error f) ↔ ¬ ∃ a, x = .ok a := by
  cases x <;> simp

/-- Deriving an integral fails exactly if a name is supplied that is no identifier. Else the integral has two
bounds for each argument, in order, and the pointer for the error, and its bounds taken apart go together again.
So it is for the integral of the integral, and however often: the number of arguments and one more doubles. -/
theorem integrals_pair_bounds (d : FunctionDeclaration) :
    (∀ name, ((∃ f, derive d name = .error f) ↔ ∃ s ∈ name, ¬ Identifier.IsName s) ∧
      ∀ i, derive d name = .ok i → IntegralOf d name i) ∧
    ∀ names, ((∃ f, deriveAll d names = .error f) ↔ ∃ s, some s ∈ names ∧ ¬ Identifier.IsName s) ∧
      ∀ is, deriveAll d names = .ok is → Tower d names is ∧ is.length = names.length ∧
        ∀ k i, is[k]? = some i → i.declaration.arity + 1 = 2 ^ (k + 1) * (d.arity + 1) := by
  refine ⟨?_, ?_⟩
  · intro name
    rw [exists_error_iff, exists_derive_eq_ok_iff]
    exact ⟨by simp, fun i hi => integralOf_of_derive hi⟩
  · intro names
    rw [exists_error_iff, exists_deriveAll_eq_ok_iff]
    refine ⟨by simp, ?_⟩
    intro is h
    have ht := tower_of_deriveAll h
    exact ⟨ht, ht.length, fun k i hk => ht.arity hk⟩

theorem integrals_pair_bounds_thrice :
    let d : FunctionDeclaration :=
      { name := "f", returnType := "float", arguments := [⟨"int", ""⟩, ⟨"double", "x"⟩] }
    let names := [none, some "g_2", none]
    ∃ i j k, deriveAll d names = .ok [i, j, k] ∧ Tower d names [i, j, k] ∧
      i.declaration.argumentNames = ["var_1_min", "var_1_max", "x_min", "x_max", "error"] ∧
      j.name = "g_2" ∧ k.name = "g_2_integral" ∧ k.declaration.arity = 23 := by
  intro d names
  obtain ⟨-, hall⟩ := integrals_pair_bounds d
  obtain ⟨-, hok⟩ := hall names
  obtain ⟨i, j, k, h, hnames⟩ : ∃ i j k : Integral, deriveAll d names = .ok [i, j, k] ∧
      i.declaration.argumentNames = ["var_1_min", "var_1_max", "x_min", "x_max", "error"] :=
    ⟨_, _, _, rfl, by decide⟩
  obtain ⟨ht, -, harity⟩ := hok _ h
  have hk := harity 2 k rfl
  refine ⟨i, j, k, h, ht, hnames, ?_⟩
  change Tower d [none, some "g_2", none] [i, j, k] at ht
  cases ht with
  | cons _ ht =>
    cases ht with
    | cons hj ht =>
      cases ht with
      | cons hl _ =>
        have hname : j.name = "g_2" := hj.name
        refine ⟨hname, ?_, Nat.succ_injective hk⟩
        rw [hl.name]
        exact congrArg (· ++ "_integral") hname

end Quadrature.Integral
