import Quadrature.C.Group
import Mathlib.Data.List.Basic

/-! Every reading gives back an end of the pieces that it starts from. -/

namespace Quadrature.C

variable {p : Piece} {ps rest : List Piece}

@[grind ←]
lemma suffix_of_tail (h : rest <:+ ps) : rest <:+ p :: ps :=
  h.trans (List.suffix_cons p ps)

@[grind →]
lemma tail_suffix (h : p :: rest <:+ ps) : rest <:+ ps :=
  (List.suffix_cons p rest).trans h

lemma suffix_of_cons_suffix_cons {q : Piece} (h : q :: rest <:+ p :: ps) : rest <:+ ps := by
  rcases List.suffix_cons_iff.mp h with h | h
  · exact (List.cons.inj h).2 ▸ List.suffix_rfl
  · exact tail_suffix h

lemma Ranked.better_cases {α : Type} {a b : Option (Ranked α)} {r : Ranked α}
    (h : Ranked.better a b = some r) : a = some r ∨ b = some r := by
  unfold Ranked.better at h
  grind

lemma Ranked.mem_of_best {α : Type} {rs : List (Ranked α)} {r : Ranked α} (h : Ranked.best rs = some r) :
    r ∈ rs := by
  induction rs with
  | nil => exact nomatch h
  | cons a rs ih =>
    rcases Ranked.better_cases h with ha | hr
    · exact Option.some.inj ha ▸ List.mem_cons_self
    · exact List.mem_cons_of_mem a (ih hr)

@[grind .]
lemma dropModifiers_suffix (ps : List Piece) : dropModifiers ps <:+ ps := by
  fun_induction dropModifiers ps <;> grind

@[grind .]
lemma dropQualifiers_suffix (ps : List Piece) : dropQualifiers ps <:+ ps := by
  fun_induction dropQualifiers ps <;> grind

@[grind .]
lemma dropAttributes_suffix (n : Nat) (ps : List Piece) : dropAttributes n ps <:+ ps := by
  fun_induction dropAttributes n ps <;> grind

@[grind .]
lemma dropDeclspec_suffix (ps : List Piece) : dropDeclspec ps <:+ ps := by
  fun_cases dropDeclspec ps <;> grind

@[grind →]
lemma wordTypes_suffix {defining : Bool} {taken : List Piece} {hasBase hasSize : Bool} {rank : Int}
    {r : TypeReading} (h : r ∈ wordTypes defining taken hasBase hasSize rank ps) :
    r.value.2 <:+ ps := by
  fun_induction wordTypes defining taken hasBase hasSize rank ps <;> grind

@[grind →]
lemma taggedRest_suffix {tag : Tag} {isBody : Piece → Bool} {r : Specifier × List Piece}
    (h : taggedRest tag isBody ps = some r) : r.2 <:+ ps := by
  unfold taggedRest at h
  grind

@[grind →]
lemma enumeration_suffix {r : Specifier × List Piece} (h : enumeration ps = some r) : r.2 <:+ ps := by
  unfold enumeration at h
  grind

@[grind →]
lemma callType_suffix {r : TypeReading} (h : r ∈ callType p ps) : r.value.2 <:+ ps := by
  unfold callType at h
  grind

lemma unranked_suffix {o : Option (Specifier × List Piece)} {r : TypeReading}
    (ho : ∀ s, o = some s → s.2 <:+ ps) (h : r ∈ o.toList.map (⟨0, ·⟩)) : r.value.2 <:+ ps := by
  obtain ⟨s, hs, rfl⟩ := List.mem_map.mp h
  exact ho s (Option.mem_toList.mp hs)

lemma typeReadings_tail {defining : Bool} {r : TypeReading} (h : r ∈ typeReadings defining (p :: rest)) :
    r.value.2 <:+ rest := by
  rw [typeReadings] at h
  split at h
  · cases h
  · split_ifs at h
    · exact unranked_suffix (fun s hs => (taggedRest_suffix hs).trans
        ((dropDeclspec_suffix _).trans (dropAttributes_suffix 1 rest))) h
    · exact unranked_suffix (fun s hs => (taggedRest_suffix hs).trans (dropDeclspec_suffix rest)) h
    · exact unranked_suffix (fun s hs => enumeration_suffix hs) h
    · exact wordTypes_suffix h
    · exact wordTypes_suffix h
    · cases h
    · rcases List.mem_append.mp h with hw | hc
      · exact wordTypes_suffix hw
      · exact callType_suffix hc

@[grind →]
lemma typeReadings_suffix {defining : Bool} {r : TypeReading} (h : r ∈ typeReadings defining ps) :
    r.value.2 <:+ ps := by
  cases ps with
  | nil => exact nomatch h
  | cons p rest => exact suffix_of_tail (typeReadings_tail h)

@[grind →]
lemma specifierReadings_suffix {r : TypeReading} (h : r ∈ specifierReadings ps) : r.value.2 <:+ ps := by
  obtain ⟨s, hs, rfl⟩ := List.mem_map.mp h
  exact (dropModifiers_suffix _).trans ((typeReadings_suffix hs).trans (dropModifiers_suffix ps))

lemma specifierReadings_tail {r : TypeReading} (h : r ∈ specifierReadings (p :: ps)) : r.value.2 <:+ ps := by
  obtain ⟨s, hs, rfl⟩ := List.mem_map.mp h
  have hd := dropModifiers_suffix (p :: ps)
  cases hm : dropModifiers (p :: ps) with
  | nil =>
    rw [hm] at hs
    exact nomatch hs
  | cons q rest =>
    rw [hm] at hs hd
    exact (dropModifiers_suffix _).trans ((typeReadings_tail hs).trans (suffix_of_cons_suffix_cons hd))

@[grind →]
lemma definedTypeReadings_suffix {r : TypeReading} (h : r ∈ definedTypeReadings ps) :
    r.value.2 <:+ ps := by
  obtain ⟨s, hs, rfl⟩ := List.mem_map.mp h
  exact (dropQualifiers_suffix _).trans ((typeReadings_suffix hs).trans (dropQualifiers_suffix ps))

@[grind →]
lemma suffixes_suffix {defining : Bool} {d : Declarator} {rank : Int} {tail : Tail} {trailing : Bool}
    {r : Ranked DeclaratorReach} (h : suffixes defining d rank tail trailing ps = some r) :
    r.value.rest <:+ ps := by
  fun_induction suffixes defining d rank tail trailing ps <;> grind

@[grind →]
lemma declaratorReading_suffix {defining pointed : Bool} {reserved : List String}
    {r : Ranked DeclaratorReach} (h : declaratorReading defining reserved pointed ps = some r) :
    r.value.rest <:+ ps := by
  fun_induction declaratorReading defining reserved pointed ps generalizing r <;>
    grind [Option.map_eq_some_iff]

lemma postfixes_suffix (assignable : Bool) (ps : List Piece) : (postfixes assignable ps).rest <:+ ps := by
  fun_induction postfixes assignable ps <;> grind

@[grind →]
lemma suffix_of_postfixes {assignable : Bool} {r : OperandReach}
    (h : some (postfixes assignable ps) = some r) : r.rest <:+ ps :=
  Option.some.inj h ▸ postfixes_suffix assignable ps

@[grind .]
lemma dropStrings_suffix (ps : List Piece) : dropStrings ps <:+ ps := by
  fun_induction dropStrings ps <;> grind

@[grind .]
lemma dropAssemblyQualifiers_suffix (ps : List Piece) : dropAssemblyQualifiers ps <:+ ps :=
  List.dropWhile_suffix _

@[grind →]
lemma wordOperand_suffix {w : String} {r : OperandReach} (h : wordOperand w ps = some r) :
    r.rest <:+ ps := by
  have hq := dropAssemblyQualifiers_suffix ps
  have hs := dropStrings_suffix ps
  unfold wordOperand at h
  split_ifs at h <;> grind

@[grind →]
lemma operand_suffix {reserved : List String} {fuel : Nat} {r : OperandReach}
    (h : operand reserved fuel ps = some r) : r.rest <:+ ps := by
  induction fuel generalizing reserved ps r with
  | zero => simp [operand] at h
  | succ fuel ih =>
    cases ps with
    | nil => simp [operand] at h
    | cons p rest =>
      apply suffix_of_tail
      have hs := dropStrings_suffix rest
      unfold operand at h
      grind [Option.map_eq_some_iff, Option.or_eq_some_iff]

structure ExpressionsLeaveRests (fuel : Nat) : Prop where
  operations : ∀ {binary assignable ps r}, operations binary assignable fuel ps = some r → r.2 <:+ ps
  alternatives : ∀ {ps rest}, alternatives fuel ps = some rest → rest <:+ ps
  expression : ∀ {reserved ps r}, expression reserved fuel ps = some r → r.2 <:+ ps
  expressions : ∀ {reserved ps rest}, expressions reserved fuel ps = some rest → rest <:+ ps

lemma expressionsLeaveRests (fuel : Nat) : ExpressionsLeaveRests fuel := by
  induction fuel with
  | zero => constructor <;> simp [operations, alternatives, expression, expressions]
  | succ fuel ih =>
    obtain ⟨ho, ha, he, hs⟩ := ih
    constructor
    · intro binary assignable ps r h
      cases ps with
      | nil =>
        obtain rfl : (binary, []) = r := by simpa [operations] using h
        exact List.suffix_rfl
      | cons p rest =>
        rw [operations] at h
        grind [Option.map_eq_some_iff]
    · intro ps rest h
      cases ps with
      | nil => simp [alternatives] at h
      | cons p ps =>
        rw [alternatives] at h
        grind
    · intro reserved ps r h
      rw [expression] at h
      grind
    · intro reserved ps rest h
      rw [expressions] at h
      grind

@[grind →]
lemma expressionEnd_suffix (h : expressionEnd ps = some rest) : rest <:+ ps := by
  obtain ⟨r, hr, rfl⟩ := Option.map_eq_some_iff.mp h
  exact (expressionsLeaveRests _).expression hr

@[grind →]
lemma plainExpressionEnd_suffix (h : plainExpressionEnd ps = some rest) : rest <:+ ps := by
  unfold plainExpressionEnd at h
  split at h
  · next hr => exact Option.some.inj h ▸ (expressionsLeaveRests _).expression hr
  · exact nomatch h

@[grind →]
lemma expressionsEnd_suffix {reserved : List String} (h : expressionsEnd reserved ps = some rest) :
    rest <:+ ps :=
  (expressionsLeaveRests _).expressions h

@[grind .]
lemma dropCallModifier_suffix (ps : List Piece) : dropCallModifier ps <:+ ps := by
  unfold dropCallModifier
  grind

@[grind →]
lemma initialValueEnd_suffix (h : initialValueEnd ps = some rest) : rest <:+ ps := by
  unfold initialValueEnd at h
  grind

@[grind →]
lemma initDeclarator_suffix {r : Ranked (Declarator × List Piece)} (h : initDeclarator ps = some r) :
    r.value.2 <:+ ps := by
  have hc := dropCallModifier_suffix ps
  unfold initDeclarator at h
  split at h
  · exact nomatch h
  · grind
  · next rank d trailing p rest hd =>
    have hs := dropAssemblyQualifiers_suffix rest
    have hd := declaratorReading_suffix hd
    grind [Option.map_eq_some_iff]

@[grind →]
lemma afterMark_suffix {m : String} (h : afterMark m ps = some rest) : rest <:+ ps := by
  unfold afterMark at h
  grind

@[grind →]
lemma afterCondition_suffix (h : afterCondition ps = some rest) : rest <:+ ps := by
  unfold afterCondition at h
  grind

@[grind →]
lemma afterBlock_suffix (h : afterBlock ps = some rest) : rest <:+ ps := by
  unfold afterBlock at h
  grind

lemma afterMark_suffix_tail {m : String} {qs : List Piece} (hs : qs <:+ p :: ps) (h : afterMark m qs = some rest) :
    rest <:+ ps := by
  cases qs with
  | nil => exact nomatch h
  | cons q qs =>
    rw [afterMark] at h
    split_ifs at h
    exact Option.some.inj h ▸ suffix_of_cons_suffix_cons hs

lemma expressionStatementEnd_tail {plain : Bool} (h : expressionStatementEnd plain (p :: ps) = some rest) :
    rest <:+ ps := by
  rw [expressionStatementEnd] at h
  split_ifs at h
  · exact Option.some.inj h ▸ List.suffix_rfl
  · obtain ⟨qs, hq, ha⟩ := Option.bind_eq_some_iff.mp h
    exact afterMark_suffix_tail (plainExpressionEnd_suffix hq) ha
  · obtain ⟨qs, hq, ha⟩ := Option.bind_eq_some_iff.mp h
    exact afterMark_suffix_tail (expressionsEnd_suffix hq) ha

@[grind →]
lemma expressionStatementEnd_suffix {plain : Bool} (h : expressionStatementEnd plain ps = some rest) :
    rest <:+ ps := by
  cases ps with
  | nil => exact nomatch h
  | cons p ps => exact suffix_of_tail (expressionStatementEnd_tail h)

@[grind →]
lemma emptyDeclarationEnd_suffix (h : emptyDeclarationEnd ps = some rest) : rest <:+ ps := by
  obtain ⟨r, hr, hs⟩ := List.exists_of_findSome?_eq_some h
  have ht := typeReadings_suffix hr
  grind

end Quadrature.C
