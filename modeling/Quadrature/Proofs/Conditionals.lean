import Quadrature.Proofs.Directives

/-! Nested conditionals as trees: the lines a C preprocessor keeps under given truth values of the
conditions, and the lines that masking blanks. -/

namespace Quadrature.C.Guard

open Text

mutual

inductive Parts where
  | nil
  | text (next : Parts)
  | inert (next : Parts)
  | group (condition : Condition) (body : Parts) (rest : Branches) (next : Parts)

inductive Branches where
  | closing
  | elseIf (body : Parts) (rest : Branches)
  | otherwise (body : Parts)

end

mutual

def Parts.kinds : Parts → List LineKind
  | .nil => []
  | .text next => .text :: next.kinds
  | .inert next => .inert :: next.kinds
  | .group c body rest next => .opening c :: (body.kinds ++ (rest.kinds ++ next.kinds))

def Branches.kinds : Branches → List LineKind
  | .closing => [.closing]
  | .elseIf body rest => .elseIf :: (body.kinds ++ rest.kinds)
  | .otherwise body => .otherwise :: (body.kinds ++ [.closing])

end

/-- Whether the condition of a conditional holds in C, with the truth value that is given to it if it
does not test `__cplusplus`. -/
def Condition.holds (truth : Bool) : Condition → Bool
  | .cplusplus => false
  | .notCplusplus => true
  | .free => truth

mutual

/-- Which lines are text that a C preprocessor keeps: `truth n` is the truth value of the condition on
line `n`, the first line is line `n`, and `live` says whether text is kept around the parts. Behind the
first branch, `taken` says whether the condition of a branch before holds. -/
def Parts.kept (truth : Nat → Bool) (live : Bool) (n : Nat) : Parts → List Bool
  | .nil => []
  | .text next => live :: next.kept truth live (n + 1)
  | .inert next => false :: next.kept truth live (n + 1)
  | .group c body rest next =>
    let holds := c.holds (truth n)
    let m := n + 1 + body.kinds.length
    false :: (body.kept truth (live && holds) (n + 1) ++
      (rest.kept truth live holds m ++ next.kept truth live (m + rest.kinds.length)))

def Branches.kept (truth : Nat → Bool) (live taken : Bool) (n : Nat) : Branches → List Bool
  | .closing => [false]
  | .elseIf body rest =>
    false :: (body.kept truth (live && (!taken && truth n)) (n + 1) ++
      rest.kept truth live (taken || truth n) (n + 1 + body.kinds.length))
  | .otherwise body => false :: (body.kept truth (live && !taken) (n + 1) ++ [false])

end

inductive Place where
  | first (condition : Condition)
  | elseIf (condition : Condition)
  | otherwise (condition : Condition) (afterElseIf : Bool)
  deriving DecidableEq

mutual

def Parts.places (around : List Place) : Parts → List (Option (List Place))
  | .nil => []
  | .text next => some around :: next.places around
  | .inert next => none :: next.places around
  | .group c body rest next =>
    none :: (body.places (.first c :: around) ++ (rest.places c false around ++ next.places around))

def Branches.places (c : Condition) (afterElseIf : Bool) (around : List Place) :
    Branches → List (Option (List Place))
  | .closing => [none]
  | .elseIf body rest => none :: (body.places (.elseIf c :: around) ++ rest.places c true around)
  | .otherwise body => none :: (body.places (.otherwise c afterElseIf :: around) ++ [none])

end

def Place.isMasked : Place → Bool
  | .first c => c = .cplusplus
  | .elseIf _ => false
  | .otherwise c afterElseIf => c = .cplusplus && afterElseIf || c = .notCplusplus

/-- The branches that some truth values of the conditions make a C preprocessor keep. -/
def Place.isReachable : Place → Bool
  | .first c => c ≠ .cplusplus
  | .elseIf c | .otherwise c _ => c ≠ .notCplusplus

def Condition.entry (c : Condition) (afterElseIf : Bool) : Branch :=
  ⟨c ≠ .free, c = .cplusplus && !afterElseIf⟩

def isBlanked (places : Option (List Place)) : Bool :=
  places.any fun around => around.any Place.isMasked

lemma decisions_cons (branches : List Branch) (k : LineKind) (ks : List LineKind) :
    decisions branches (k :: ks) =
      (k = .text && branches.any Branch.excluded) :: decisions (advance branches k) ks := rfl

lemma advance_opening (c : Condition) (branches : List Branch) :
    advance branches (.opening c) = c.entry false :: branches := by
  cases c <;> rfl

lemma advance_elseIf (c : Condition) (b : Bool) (branches : List Branch) :
    advance (c.entry b :: branches) .elseIf = c.entry true :: branches := by
  cases c <;> rfl

lemma advance_otherwise (c : Condition) (b : Bool) (branches : List Branch) :
    advance (c.entry b :: branches) .otherwise =
      ⟨c ≠ .free, (Place.otherwise c b).isMasked⟩ :: branches := by
  cases c <;> cases b <;> rfl

mutual

lemma Parts.decisions_append (p : Parts) {branches : List Branch} {around : List Place}
    (h : branches.any Branch.excluded = around.any Place.isMasked) (ks : List LineKind) :
    decisions branches (p.kinds ++ ks) = (p.places around).map isBlanked ++ decisions branches ks := by
  -- the stack answers as the branches around do: its top is the entry of the innermost of them
  cases p with
  | nil => rfl
  | text next =>
    rw [Parts.kinds, List.cons_append, decisions_cons, advance, next.decisions_append h, h,
      Parts.places, List.map_cons, List.cons_append]
    rfl
  | inert next =>
    rw [Parts.kinds, List.cons_append, decisions_cons, advance, next.decisions_append h, Parts.places,
      List.map_cons, List.cons_append]
    rfl
  | group c body rest next =>
    have hf : (c.entry false :: branches).any Branch.excluded =
        (Place.first c :: around).any Place.isMasked := by
      rw [List.any_cons, List.any_cons, h]
      cases c <;> rfl
    rw [Parts.kinds, List.cons_append, decisions_cons, advance_opening, List.append_assoc,
      List.append_assoc, body.decisions_append hf, rest.decisions_append c false h,
      next.decisions_append h, Parts.places, List.map_cons, List.map_append, List.map_append,
      List.cons_append, List.append_assoc, List.append_assoc]
    rfl

lemma Branches.decisions_append (r : Branches) (c : Condition) (b : Bool) {branches : List Branch}
    {around : List Place} (h : branches.any Branch.excluded = around.any Place.isMasked)
    (ks : List LineKind) :
    decisions (c.entry b :: branches) (r.kinds ++ ks) =
      (r.places c b around).map isBlanked ++ decisions branches ks := by
  cases r with
  | closing => rfl
  | elseIf body rest =>
    have hf : (c.entry true :: branches).any Branch.excluded =
        (Place.elseIf c :: around).any Place.isMasked := by
      rw [List.any_cons, List.any_cons, h]
      cases c <;> rfl
    rw [Branches.kinds, List.cons_append, decisions_cons, advance_elseIf, List.append_assoc,
      body.decisions_append hf, rest.decisions_append c true h, Branches.places, List.map_cons,
      List.map_append, List.cons_append, List.append_assoc]
    rfl
  | otherwise body =>
    have hf : ((⟨c ≠ .free, (Place.otherwise c b).isMasked⟩ : Branch) :: branches).any Branch.excluded =
        (Place.otherwise c b :: around).any Place.isMasked := by
      rw [List.any_cons, List.any_cons, h]
    rw [Branches.kinds, List.cons_append, decisions_cons, advance_otherwise, List.append_assoc,
      body.decisions_append hf, Branches.places, List.map_cons, List.map_append, List.cons_append,
      List.cons_append, List.append_assoc]
    rfl

end

def KeptInReach (kept : Bool) (places : Option (List Place)) : Prop :=
  kept = true → ∃ around, places = some around ∧ ∀ q ∈ around, q.isReachable = true

mutual

lemma Parts.kept_inReach (p : Parts) (truth : Nat → Bool) {live : Bool} {around : List Place} (n : Nat)
    (h : live = true → ∀ q ∈ around, q.isReachable = true) :
    List.Forall₂ KeptInReach (p.kept truth live n) (p.places around) := by
  cases p with
  | nil => exact .nil
  | text next => exact .cons (fun hl => ⟨around, rfl, h hl⟩) (next.kept_inReach truth (n + 1) h)
  | inert next => exact .cons (fun hl => nomatch hl) (next.kept_inReach truth (n + 1) h)
  | group c body rest next =>
    refine .cons (fun hl => nomatch hl) (List.rel_append ?_ (List.rel_append ?_ ?_))
    · refine body.kept_inReach truth (n + 1) fun hl => List.forall_mem_cons.mpr ?_
      obtain ⟨hl, hc⟩ := Bool.and_eq_true_iff.mp hl
      refine ⟨?_, h hl⟩
      cases c with
      | cplusplus => exact nomatch hc
      | notCplusplus => rfl
      | free => rfl
    · exact rest.kept_inReach truth _ c false (by rintro rfl; rfl) h
    · exact next.kept_inReach truth _ h

lemma Branches.kept_inReach (r : Branches) (truth : Nat → Bool) {live taken : Bool}
    {around : List Place} (n : Nat) (c : Condition) (b : Bool) (ht : c = .notCplusplus → taken = true)
    (h : live = true → ∀ q ∈ around, q.isReachable = true) :
    List.Forall₂ KeptInReach (r.kept truth live taken n) (r.places c b around) := by
  -- in C the first branch of a test for C alone is taken, so no later one is
  have hc : taken = false → decide (c ≠ .notCplusplus) = true := by
    rintro rfl
    exact decide_eq_true fun hc => nomatch ht hc
  cases r with
  | closing => exact .cons (fun hl => nomatch hl) .nil
  | elseIf body rest =>
    refine .cons (fun hl => nomatch hl) (List.rel_append ?_ ?_)
    · refine body.kept_inReach truth (n + 1) fun hl => List.forall_mem_cons.mpr ?_
      simp only [Bool.and_eq_true, Bool.not_eq_true'] at hl
      exact ⟨hc hl.2.1, h hl.1⟩
    · exact rest.kept_inReach truth _ c true (fun hn => by rw [ht hn, Bool.true_or]) h
  | otherwise body =>
    refine .cons (fun hl => nomatch hl) (List.rel_append ?_ (.cons (fun hl => nomatch hl) .nil))
    refine body.kept_inReach truth (n + 1) fun hl => List.forall_mem_cons.mpr ?_
    simp only [Bool.and_eq_true, Bool.not_eq_true'] at hl
    exact ⟨hc hl.2, h hl.1⟩

end

def Place.lastOfMany : Place := .otherwise .cplusplus true

lemma Place.isMasked_iff {q : Place} (h : q.isReachable = true) :
    q.isMasked = true ↔ q = lastOfMany := by
  rcases q with c | c | ⟨c, b⟩ <;> cases c <;> simp_all [isMasked, isReachable, lastOfMany]

lemma isBlanked_iff {around : List Place} (h : ∀ q ∈ around, q.isReachable = true) :
    isBlanked (some around) = true ↔ .lastOfMany ∈ around := by
  rw [isBlanked, Option.any_some, List.any_eq_true]
  constructor
  · rintro ⟨q, hq, hm⟩
    exact (Place.isMasked_iff (h q hq)).mp hm ▸ hq
  · intro hq
    exact ⟨_, hq, rfl⟩

def Nested (parts : Parts) (source : String) : Prop :=
  parts.kinds = lineKinds false (lines source.toList)

def Plain (source : String) : Prop := PlainLines false (lines source.toList)

/-- The lines of a source are those of the parts, if a condition counts as a test of `__cplusplus` where
its line shows one with the blanks left out. -/
def Recognised (parts : Parts) (source : String) : Prop :=
  parts.kinds = recognisedKinds false (lines source.toList)

instance (parts : Parts) (source : String) : Decidable (Recognised parts source) :=
  inferInstanceAs (Decidable (_ = _))

def Spaced (source : String) : Prop := SpacedLines false (lines source.toList)

instance (source : String) : Decidable (Spaced source) :=
  inferInstanceAs (Decidable (SpacedLines _ _))

lemma Recognised.mask_getElem? {parts : Parts} {source : String} (hn : Recognised parts source)
    (hs : Spaced source) {i : Nat} {places : Option (List Place)}
    (hi : (parts.places [])[i]? = some places) :
    (lines (mask source).toList)[i]? =
      (lines source.toList)[i]?.map fun line => if isBlanked places then blank line else line := by
  have hd : decisions [] (parts.kinds ++ []) = (parts.places []).map isBlanked ++ [] :=
    parts.decisions_append rfl []
  rw [List.append_nil, List.append_nil, hn] at hd
  have hb : blankedLines .initial (lines source.toList) =
      decisions [] (recognisedKinds false (lines source.toList)) := blankedLines_eq hs
  rw [lines_mask, maskLines_eq_blankFlagged, hb, hd, blankFlagged, List.getElem?_zipWith,
    List.getElem?_map, hi]
  cases (lines source.toList)[i]? <;> rfl

lemma mask_getElem? {parts : Parts} {source : String} (hn : Nested parts source) (hp : Plain source)
    {i : Nat} {places : Option (List Place)} (hi : (parts.places [])[i]? = some places) :
    (lines (mask source).toList)[i]? =
      (lines source.toList)[i]?.map fun line => if isBlanked places then blank line else line := by
  have hr : Recognised parts source := Eq.trans hn (PlainLines.recognisedKinds_eq hp).symm
  exact hr.mask_getElem? (PlainLines.spaced hp) hi

lemma Parts.reachable_of_kept {parts : Parts} {truth : Nat → Bool} {i : Nat}
    (h : (parts.kept truth true 0)[i]? = some true) :
    ∃ around, (parts.places [])[i]? = some (some around) ∧ ∀ q ∈ around, q.isReachable = true := by
  have hr : List.Forall₂ KeptInReach (parts.kept truth true 0) (parts.places []) :=
    parts.kept_inReach truth 0 (by simp)
  obtain ⟨hi, hk⟩ := List.getElem?_eq_some_iff.mp h
  have hi' : i < (parts.places []).length := hr.length_eq ▸ hi
  obtain ⟨around, ha, hq⟩ := hr.get hi hi' hk
  exact ⟨around, List.getElem?_eq_some_iff.mpr ⟨hi', ha⟩, hq⟩

/-- Text that a C preprocessor keeps is changed by masking exactly if it is not blank already and
stands in the last branch of a test for C++ that has other branches between its first and its last. -/
theorem kept_line_blanked_iff {parts : Parts} {source : String} (hn : Nested parts source)
    (hp : Plain source) (truth : Nat → Bool) {i : Nat}
    (hk : (parts.kept truth true 0)[i]? = some true) :
    (lines (mask source).toList)[i]? ≠ (lines source.toList)[i]? ↔
      (∃ around, (parts.places [])[i]? = some (some around) ∧ .lastOfMany ∈ around) ∧
        ∃ line, (lines source.toList)[i]? = some line ∧ blank line ≠ line := by
  obtain ⟨around, ha, hq⟩ := Parts.reachable_of_kept hk
  rw [mask_getElem? hn hp ha]
  have hb := isBlanked_iff hq
  constructor
  · intro hne
    cases hl : (lines source.toList)[i]? with
    | none => exact absurd (by rw [hl]; rfl) hne
    | some line =>
      rw [hl, Option.map_some, ne_eq, Option.some.injEq] at hne
      by_cases hm : isBlanked (some around) = true
      · rw [if_pos hm] at hne
        exact ⟨⟨around, ha, hb.mp hm⟩, line, rfl, hne⟩
      · rw [if_neg hm] at hne
        exact absurd rfl hne
  · rintro ⟨⟨around', ha', hm⟩, line, hl, hne⟩
    obtain rfl : around = around' := by simpa [ha] using ha'
    rw [hl, Option.map_some, if_pos (hb.mpr hm), ne_eq, Option.some.injEq]
    exact hne

theorem kept_line_blanked_behind_elif :
    let source := "#ifdef __cplusplus\nint a;\n#elif X\nint b;\n#else\nint f(int);\n#endif\n"
    let parts := Parts.group .cplusplus (.text .nil) (.elseIf (.text .nil) (.otherwise (.text .nil))) .nil
    Nested parts source ∧ Plain source ∧ (parts.kept (fun _ => false) true 0)[5]? = some true ∧
      (lines (mask source).toList)[5]? ≠ (lines source.toList)[5]? := by
  intro source parts
  have hn : Nested parts source := by
    unfold Nested
    decide +kernel
  have hp : Plain source := by
    unfold Plain
    decide +kernel
  have hk : (parts.kept (fun _ => false) true 0)[5]? = some true := by decide
  refine ⟨hn, hp, hk, (kept_line_blanked_iff hn hp _ hk).mpr ⟨⟨[.lastOfMany], rfl, by simp⟩, ?_⟩⟩
  exact ⟨"int f(int);\n".toList, by decide +kernel, by decide +kernel⟩

end Quadrature.C.Guard
