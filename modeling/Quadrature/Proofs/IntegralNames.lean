import Quadrature.Generation.Options
import Quadrature.Proofs.IntegralText

/-! The names in the declaration of an integral: the name that is supplied or made from the integrand's, and
the names of bounds. All of them are identifiers that no word of the language stands for. -/

namespace Quadrature.Identifier

open C Lexeme Text

lemma toNat_lt_of_isWordChar {c : Char} (h : isWordChar c = true) : c.toNat < 128 := by
  have hle : ∀ {d : Char}, c ≤ d → c.toNat ≤ d.toNat := fun h => h
  simp only [isWordChar, isLetter, isDigit, Bool.or_eq_true, Bool.and_eq_true, decide_eq_true_eq,
    beq_iff_eq] at h
  rcases h with ((⟨-, h⟩ | ⟨-, h⟩) | ⟨-, h⟩) | rfl
  · exact Nat.lt_of_le_of_lt (hle h) (by decide)
  · exact Nat.lt_of_le_of_lt (hle h) (by decide)
  · exact Nat.lt_of_le_of_lt (hle h) (by decide)
  · decide

lemma forall_wordChar {P : Char → Prop} (h : ∀ n < 128, P (Char.ofNat n)) {c : Char}
    (hc : isWordChar c = true) : P c :=
  forall_ascii h (toNat_lt_of_isWordChar hc)

lemma class_of_isWordChar {c : Char} (h : isWordChar c = true) :
    isXidContinue c = true ∧ c ∉ ['\\', '\n', '\r', '*'] ∧
      (isLetter c = true → isXidStart c = true ∧ c ≠ '_') :=
  forall_wordChar (P := fun c => isWordChar c = true → isXidContinue c = true ∧ c ∉ ['\\', '\n', '\r', '*'] ∧
    (isLetter c = true → isXidStart c = true ∧ c ≠ '_')) (by decide +kernel) h h

lemma check_ok {s : String} (h : check s = .ok ()) :
    ∃ c cs, s.toList = c :: cs ∧ isLetter c = true ∧ ∀ d ∈ c :: cs, isWordChar d = true := by
  rw [check] at h
  split_ifs at h with hw
  split at h
  · cases h
  · next c cs hs =>
    split_ifs at h with hl
    exact ⟨c, cs, hs, hl, fun d hd => List.all_eq_true.mp hw d (hs ▸ hd)⟩

def IsName (s : String) : Prop :=
  ∃ c cs, s.toList = c :: cs ∧ isLetter c = true ∧ ∀ d ∈ cs, isWordChar d = true

lemma isWordChar_of_isLetter {c : Char} (h : isLetter c = true) : isWordChar c = true := by
  rw [isWordChar, h, Bool.true_or, Bool.true_or]

lemma check_eq_ok_iff {s : String} : check s = .ok () ↔ IsName s := by
  constructor
  · intro h
    obtain ⟨c, cs, hs, hl, hw⟩ := check_ok h
    exact ⟨c, cs, hs, hl, fun d hd => hw d (List.mem_cons_of_mem c hd)⟩
  · rintro ⟨c, cs, hs, hl, hw⟩
    have hall : (c :: cs).all isWordChar = true :=
      List.all_eq_true.mpr (List.forall_mem_cons.mpr ⟨isWordChar_of_isLetter hl, hw⟩)
    rw [check, hs, if_pos hall]
    exact if_pos hl

lemma not_mem_of_check {s : String} (h : check s = .ok ()) :
    ∀ c ∈ s.toList, c ∉ ['\\', '\n', '\r', '*'] := by
  obtain ⟨c, cs, hs, -, hw⟩ := check_ok h
  intro d hd
  exact (class_of_isWordChar (hw d (hs ▸ hd))).2.1

lemma isIdentifier_of_check {s : String} (h : check s = .ok ()) : IsIdentifier s.toList := by
  obtain ⟨c, cs, hs, hl, hw⟩ := check_ok h
  have hall : ∀ d ∈ c :: cs, isXidContinue d = true ∧ d ≠ '\\' := by
    intro d hd
    obtain ⟨hx, hd, -⟩ := class_of_isWordChar (hw d hd)
    exact ⟨hx, fun he => hd (by simp [he])⟩
  have hend : Delimited [] := by simp [Delimited]
  obtain ⟨-, -, hstart⟩ := class_of_isWordChar (hw c List.mem_cons_self)
  have hi := identifier_append (hstart hl).1 (hall c List.mem_cons_self).2
    (fun d hd => hall d (List.mem_cons_of_mem c hd)) hend
  rw [List.append_nil] at hi
  rw [hs]
  exact ⟨by simp, hi⟩

end Quadrature.Identifier

namespace Quadrature

open C Lexeme Scan Text

def suffixes : List String := ["_min", "_max", "_integral"]

lemma not_mem_of_suffix {suffix x : String} {words : List String}
    (h : ∀ v ∈ words, ¬ suffix.toList <:+ v.toList) : x ++ suffix ∉ words := by
  intro hm
  exact h _ hm ⟨x.toList, String.toList_append.symm⟩

lemma declarable_append {suffix : String} (hs : suffix ∈ suffixes) (t x : String) :
    Declarable t (x ++ suffix) ∧ x ++ suffix ∉ Word.callModifiers := by
  have hall : ∀ suffix ∈ suffixes,
      (∀ v ∈ Word.modifiers, ¬ suffix.toList <:+ v.toList) ∧
      (∀ v ∈ Word.sizes, ¬ suffix.toList <:+ v.toList) ∧
      (∀ v ∈ Word.primitives, ¬ suffix.toList <:+ v.toList) ∧
      ∀ v ∈ Word.callModifiers, ¬ suffix.toList <:+ v.toList := by
    decide +kernel
  obtain ⟨hm, hz, hp, hc⟩ := hall suffix hs
  exact ⟨⟨not_mem_of_suffix hm, not_mem_of_suffix hz, .inr (not_mem_of_suffix hp)⟩, not_mem_of_suffix hc⟩

lemma isIdentifier_append {suffix x : String} (hs : suffix ∈ suffixes)
    (hx : IsIdentifier x.toList) : IsIdentifier (x ++ suffix).toList := by
  have hall : ∀ suffix ∈ suffixes,
      identifierRest 0 suffix.toList = suffix.toList.length := by
    decide +kernel
  rw [String.toList_append]
  exact hx.append (hall suffix hs)

lemma isXidContinue_of_isDigit {c : Char} (h : c.isDigit = true) : isXidContinue c = true ∧ c ≠ '\\' := by
  have hlt : c.toNat < 0x80 := by
    simp only [Char.isDigit, Bool.and_eq_true, decide_eq_true_eq] at h
    exact Nat.lt_of_le_of_lt h.2 (by decide)
  refine ⟨by simp [isXidContinue, hlt, Char.isAlphanum, h], ?_⟩
  rintro rfl
  simp at h

lemma identifierRest_toString (n : Nat) :
    identifierRest 0 (toString n).toList = (toString n).toList.length := by
  have hdigits : ∀ c ∈ (toString n).toList, isXidContinue c = true ∧ c ≠ '\\' := by
    intro c hc
    rw [Nat.toString_eq_ofList_toDigits, String.toList_ofList] at hc
    exact isXidContinue_of_isDigit (Nat.isDigit_of_mem_toDigits (by decide) (by decide) hc)
  have hend : Delimited [] := by simp [Delimited]
  have h := identifierRest_append hdigits hend
  rwa [List.append_nil] at h

lemma isIdentifier_boundBase {name : String} (h : name ≠ "" → IsIdentifier name.toList) (index : Nat) :
    IsIdentifier (Integral.boundBase index name).toList := by
  rw [Integral.boundBase]
  split_ifs with he
  · have hvar : IsIdentifier "var_".toList := by decide +kernel
    rw [String.toList_append]
    exact hvar.append (identifierRest_toString _)
  · exact h he

lemma declares_boundsFrom {as : List Argument} (ht : ∀ a ∈ as, a.type ∈ plainTypes)
    (hn : ∀ a ∈ as, a.name ≠ "" → IsIdentifier a.name.toList) (index : Nat) :
    ∀ b ∈ Integral.boundsFrom index as, Declares b := by
  induction as generalizing index with
  | nil => simp [Integral.boundsFrom]
  | cons a as ih =>
    obtain ⟨hta, ht⟩ := List.forall_mem_cons.mp ht
    obtain ⟨hna, hn⟩ := List.forall_mem_cons.mp hn
    have hbase := isIdentifier_boundBase hna index
    have hbound : ∀ suffix ∈ suffixes,
        Declares ⟨a.type, Integral.boundBase index a.name ++ suffix⟩ := fun suffix hs =>
      ⟨hta, isIdentifier_append hs hbase, (declarable_append hs _ _).1⟩
    rw [Integral.boundsFrom, List.forall_mem_append]
    refine ⟨?_, ih ht hn _⟩
    simpa [Integral.bounds] using ⟨hbound "_min" (by decide), hbound "_max" (by decide)⟩

lemma types_boundsFrom (as : List Argument) (index : Nat) :
    (Integral.boundsFrom index as).map Argument.type = as.flatMap fun a => [a.type, a.type] := by
  induction as generalizing index with
  | nil => rfl
  | cons a as ih => rw [Integral.boundsFrom, List.map_append, ih]; rfl

/-- A supplied name that is no word of a declaration: no modifier and no size, and no primitive type where
the return type is made of sizes alone. -/
def Suits (returnType : String) (name : String) : Prop :=
  name ∉ Word.modifiers ++ Word.sizes ∧ (hasBase returnType = true ∨ name ∉ Word.primitives)

instance (returnType : String) : DecidablePred (Suits returnType) := fun _ =>
  inferInstanceAs (Decidable (_ ∧ _))

lemma declares_chooseName {d : FunctionDeclaration} {name : Option String} {n : String}
    (ht : d.returnType ∈ plainTypes) (hd : IsIdentifier d.name.toList)
    (hs : ∀ m ∈ name, Suits d.returnType m) (h : Integral.chooseName d name = .ok n) :
    Declares ⟨d.returnType, n⟩ ∧ n ∉ Word.callModifiers := by
  cases name with
  | none =>
    obtain rfl := Except.ok.inj h
    have hsuffix : "_integral" ∈ suffixes := by decide
    obtain ⟨hdecl, hcall⟩ := declarable_append hsuffix d.returnType d.name
    exact ⟨⟨ht, isIdentifier_append hsuffix hd, hdecl⟩, hcall⟩
  | some m =>
    rw [Integral.chooseName] at h
    split at h
    · next hc =>
      obtain rfl := Except.ok.inj h
      obtain ⟨hwords, hprim⟩ := hs m rfl
      rw [List.mem_append, not_or] at hwords
      refine ⟨⟨ht, Identifier.isIdentifier_of_check hc, hwords.1, hwords.2, hprim⟩, ?_⟩
      -- call modifiers start with an underscore
      obtain ⟨c, cs, he, hl, hw⟩ := Identifier.check_ok hc
      obtain ⟨-, -, hstart⟩ := Identifier.class_of_isWordChar (hw c List.mem_cons_self)
      have hall : ∀ v ∈ Word.callModifiers, v.toList.head? = some '_' := by decide +kernel
      intro hm
      have hh := hall m hm
      rw [he] at hh
      exact (hstart hl).2 (Option.some.inj hh)
    · cases h

end Quadrature
