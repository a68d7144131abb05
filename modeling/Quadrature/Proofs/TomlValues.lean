import Mathlib.Tactic.SplitIfs
import Quadrature.Proofs.TomlStrings
import Quadrature.Toml.Document

/-! Values at the end of a line: strings, flags and natural numbers are read back as they were written. -/

namespace Quadrature.Toml

variable {c : Char} {ds r : List Char} {n : Nat}

lemma ne_of_isDigit {d : Char} (hd : d.isDigit = true) (hc : c.isDigit = false) : d ≠ c := by
  rintro rfl
  simp [hc] at hd

lemma hexValue?_digit (h : c.isDigit = true) : Json.hexValue? c = some (c.toNat - 48) := by
  have hc : '0' ≤ c ∧ c ≤ '9' := by
    simpa [Char.isDigit, Char.le_def] using h
  rw [Json.hexValue?, if_pos hc]

lemma foldl_digits (h : ∀ c ∈ ds, c.isDigit = true) (start : Nat) :
    ds.foldl (fun n c => n * 10 + (Json.hexValue? c).getD 0) start = Nat.ofDigitChars 10 ds start := by
  induction ds generalizing start with
  | nil => rfl
  | cons c ds ih =>
    obtain ⟨hc, hds⟩ := List.forall_mem_cons.mp h
    rw [List.foldl_cons, Nat.ofDigitChars_cons, hexValue?_digit hc, Nat.mul_comm]
    exact ih hds _

lemma isDigit_toDigits (n : Nat) : ∀ c ∈ Nat.toDigits 10 n, c.isDigit = true := by
  intro c hc
  exact Nat.isDigit_of_mem_toDigits (by decide) (by decide) hc

lemma inBase_toDigits (n : Nat) : inBase 10 (Nat.toDigits 10 n) = n := by
  rw [inBase, foldl_digits (isDigit_toDigits n), Nat.ofDigitChars_toDigits (by decide) (by decide)]

lemma toDigits_head (n : Nat) : ∃ d ds, Nat.toDigits 10 n = d :: ds ∧ (d = '0' → ds = []) := by
  induction n using Nat.strongRecOn with
  | ind n ih =>
    by_cases hn : n < 10
    · exact ⟨n.digitChar, [], Nat.toDigits_of_lt_base hn, fun _ => rfl⟩
    · obtain ⟨d, ds, heq, hzero⟩ := ih (n / 10) (by omega)
      refine ⟨d, ds ++ [(n % 10).digitChar], ?_, ?_⟩
      · rw [Nat.toDigits_of_base_le (by decide) (by omega), heq]
        rfl
      · intro hd
        -- the quotient would be zero
        have hdiv := inBase_toDigits (n / 10)
        rw [heq, hzero hd, hd] at hdiv
        have hten : n / 10 = 0 := hdiv.symm
        omega

lemma digitsAfter_line (inside : Bool) (h : ∀ c ∈ ds, c.isDigit = true) :
    digitsAfter Char.isDigit inside (ds ++ '\n' :: r) = (ds, '\n' :: r) := by
  induction ds generalizing inside with
  | nil => simp [digitsAfter]
  | cons c ds ih =>
    obtain ⟨hc, hds⟩ := List.forall_mem_cons.mp h
    rw [List.cons_append, digitsAfter, if_pos hc, ih true hds]

lemma after?_line (h : ∀ c ∈ ds, c.isDigit = true) (hc : c.isDigit = false) (hn : c ≠ '\n') :
    after? c (ds ++ '\n' :: r) = none := by
  cases ds with
  | nil => simp [after?, hn]
  | cons d ds =>
    have hd : d ≠ c := ne_of_isDigit (h d List.mem_cons_self) hc
    simp [after?, hd.symm]

lemma after?_drop {k : Nat} (h : ∀ c ∈ ds, c.isDigit = true)
    (hk : ((ds ++ '\n' :: r).take k).all Char.isDigit = true) (hc : c.isDigit = false) (hn : c ≠ '\n') :
    after? c ((ds ++ '\n' :: r).drop k) = none := by
  rcases Nat.lt_or_ge ds.length k with hlt | hge
  · have hmem : '\n' ∈ (ds ++ '\n' :: r).take k := by
      obtain ⟨j, rfl⟩ := Nat.exists_eq_add_of_lt hlt
      rw [Nat.add_assoc, List.take_length_add_append, List.take_succ_cons]
      simp
    exact absurd (List.all_eq_true.mp hk _ hmem) (by decide)
  · rw [List.drop_append_of_le_length hge]
    exact after?_line (fun c hc => h c (List.mem_of_mem_drop hc)) hc hn

lemma date?_line (h : ∀ c ∈ ds, c.isDigit = true) : date? (ds ++ '\n' :: r) = none := by
  rw [date?]
  split_ifs with hyear
  · rw [Bool.and_eq_true] at hyear
    rw [after?_drop h hyear.2 rfl (by decide)]
    rfl
  · rfl

lemma twoDigits?_drop {low high k : Nat} {cs t : List Char} (h : twoDigits? low high cs = some (k, t)) :
    (cs.take 2).all Char.isDigit = true ∧ t = cs.drop 2 := by
  rcases cs with _ | ⟨a, _ | ⟨b, cs⟩⟩
  · cases h
  · cases h
  · simp only [twoDigits?] at h
    split_ifs at h with hdigits
    obtain ⟨-, rfl⟩ := Prod.mk.inj (Option.some.inj h)
    exact ⟨by simpa using hdigits, rfl⟩

lemma time?_line (h : ∀ c ∈ ds, c.isDigit = true) : time? (ds ++ '\n' :: r) = none := by
  rw [time?]
  cases hhour : twoDigits? 0 23 (ds ++ '\n' :: r) with
  | none => rfl
  | some p =>
    obtain ⟨hdigits, htail⟩ := twoDigits?_drop hhour
    have hcolon := after?_drop (c := ':') h hdigits rfl (by decide)
    rw [← htail] at hcolon
    simp [hcolon]

lemma dateTime?_line (h : ∀ c ∈ ds, c.isDigit = true) : dateTime? (ds ++ '\n' :: r) = none := by
  rw [dateTime?, date?_line h]
  exact time?_line h

lemma wholeDigits_line (n : Nat) :
    wholeDigits (Nat.toDigits 10 n ++ '\n' :: r) = (Nat.toDigits 10 n, '\n' :: r) := by
  have hdigits := isDigit_toDigits n
  obtain ⟨d, ds, heq, hzero⟩ := toDigits_head n
  rw [heq] at hdigits ⊢
  by_cases hd : d = '0'
  · rw [hzero hd, hd]
    rfl
  · rw [List.cons_append, wholeDigits, digitRun, ← List.cons_append, digitsAfter_line false hdigits]
    exact fun _ h => hd (List.cons.inj h).1

lemma decimal?_line (h : n < 2 ^ 63) :
    decimal? false (Nat.toDigits 10 n ++ '\n' :: r) = some (.integer n, '\n' :: r) := by
  have hfit : fitting? false (inBase 10 (Nat.toDigits 10 n)) = some (.integer n) := by
    rw [inBase_toDigits, fitting?, if_neg (by decide), if_pos h]
  have hne : Nat.toDigits 10 n ≠ [] := Nat.toDigits_ne_nil
  rw [decimal?, wholeDigits_line]
  simp [fractionDigits?, exponent?, hfit, hne]

lemma number?_line (h : n < 2 ^ 63) :
    number? (Nat.toDigits 10 n ++ '\n' :: r) = some (.integer n, '\n' :: r) := by
  rw [← decimal?_line h]
  have hdigits := isDigit_toDigits n
  obtain ⟨d, ds, heq, hzero⟩ := toDigits_head n
  rw [heq] at hdigits ⊢
  by_cases hd : d = '0'
  · rw [hzero hd, hd]
    rfl
  · have hne : ∀ c, c.isDigit = false → d ≠ c := fun c => ne_of_isDigit (hdigits d List.mem_cons_self)
    simp [number?, sign, hd, hne '-' rfl, hne '+' rfl, hne 'i' rfl, hne 'n' rfl]

def Denotes (text : String) (v : Value) : Prop :=
  ∀ fuel rest, value? (fuel + 1) ((text.toList ++ '\n' :: rest).dropWhile isSpace) = some (v, '\n' :: rest)

lemma value?_quoted {fuel : Nat} (hc : c = '"' ∨ c = '\'') :
    value? (fuel + 1) (c :: r) = (string? (c :: r)).map fun p => (.text p.1, p.2) := by
  rcases hc with rfl | rfl <;> rfl

lemma written_head (s : String) : ∃ c t, (written s).toList = c :: t ∧ (c = '"' ∨ c = '\'') := by
  rw [written]
  simp only [apply_ite String.toList]
  split_ifs <;> simp

lemma denotes_written (s : String) : Denotes (written s) (.text s) := by
  intro fuel rest
  have hread : string? ((written s).toList ++ '\n' :: rest) = some (s, '\n' :: rest) :=
    string?_written s (by simp) (by simp)
  obtain ⟨c, t, heq, hc⟩ := written_head s
  rw [heq] at hread ⊢
  have hspace : ¬ isSpace c = true := by
    rcases hc with rfl | rfl <;> decide
  rw [List.cons_append, List.dropWhile_cons_of_neg hspace, value?_quoted hc, ← List.cons_append, hread]
  rfl

lemma denotes_flag (b : Bool) : Denotes (if b then "true" else "false") (.flag b) := by
  intro fuel rest
  cases b <;> rfl

lemma value?_digit {fuel : Nat} (h : c.isDigit = true) (hdate : dateTime? (c :: r) = none) :
    value? (fuel + 1) (c :: r) = number? (c :: r) := by
  have hne : ∀ d, d.isDigit = false → c ≠ d := fun d => ne_of_isDigit h
  simp [value?, hdate, hne '[' rfl, hne '\x7b' rfl, hne 't' rfl, hne 'f' rfl, hne '"' rfl, hne '\'' rfl]

lemma denotes_toString (h : n < 2 ^ 63) : Denotes (toString n) (.integer n) := by
  intro fuel rest
  rw [Nat.toString_eq_ofList_toDigits, String.toList_ofList]
  have hdigits := isDigit_toDigits n
  have hread := number?_line (r := rest) h
  obtain ⟨d, ds, heq, -⟩ := toDigits_head n
  rw [heq] at hdigits hread ⊢
  have hd : d.isDigit = true := hdigits d List.mem_cons_self
  have hspace : ¬ isSpace d = true := by
    simp [isSpace, ne_of_isDigit hd]
  have hdate : dateTime? (d :: (ds ++ '\n' :: rest)) = none := dateTime?_line hdigits
  rw [List.cons_append, List.dropWhile_cons_of_neg hspace, value?_digit hd hdate]
  exact hread

end Quadrature.Toml
