import Quadrature.Proofs.Conditionals

/-! Where no test of `__cplusplus` has other conditions behind it, the stack of open conditionals singles
out the text in branches for C++ alone, at any depth. -/

namespace Quadrature.C.Guard

open Text

mutual

def Parts.testsOnce : Parts → Bool
  | .nil => true
  | .text next => next.testsOnce
  | .inert next => next.testsOnce
  | .group c body rest next => body.testsOnce && (rest.testsOnce c && next.testsOnce)

def Branches.testsOnce (c : Condition) : Branches → Bool
  | .closing => true
  | .elseIf body rest => c = .free && (body.testsOnce && rest.testsOnce c)
  | .otherwise body => body.testsOnce

end

/-- The branches for C++ alone: the first one of a test that holds for C++, and the last one of a test
that holds for C. -/
def Place.isForCplusplus : Place → Bool
  | .first c => c = .cplusplus
  | .elseIf _ => false
  | .otherwise c _ => c = .notCplusplus

lemma Place.isMasked_eq {q : Place} (h : q ≠ lastOfMany) : q.isMasked = q.isForCplusplus := by
  cases q with
  | first c => rfl
  | elseIf c => rfl
  | otherwise c b => cases c <;> cases b <;> simp_all [isMasked, isForCplusplus, lastOfMany]

mutual

lemma Parts.lastOfMany_not_mem (p : Parts) (h : p.testsOnce = true) {around qs : List Place}
    (ha : .lastOfMany ∉ around) (hq : some qs ∈ p.places around) : .lastOfMany ∉ qs := by
  cases p with
  | nil => simp [Parts.places] at hq
  | text next =>
    rw [Parts.places, List.mem_cons, Option.some.injEq] at hq
    rcases hq with rfl | hq
    · exact ha
    · exact next.lastOfMany_not_mem h ha hq
  | inert next =>
    rw [Parts.places, List.mem_cons] at hq
    exact next.lastOfMany_not_mem h ha (hq.resolve_left (by simp))
  | group c body rest next =>
    rw [Parts.testsOnce, Bool.and_eq_true, Bool.and_eq_true] at h
    rw [Parts.places, List.mem_cons, List.mem_append, List.mem_append] at hq
    rcases hq with hq | hq | hq | hq
    · cases hq
    · refine body.lastOfMany_not_mem h.1 ?_ hq
      exact List.not_mem_cons_of_ne_of_not_mem (by simp [Place.lastOfMany]) ha
    · exact rest.lastOfMany_not_mem h.2.1 (by simp) ha hq
    · exact next.lastOfMany_not_mem h.2.2 ha hq

lemma Branches.lastOfMany_not_mem (r : Branches) {c : Condition} (h : r.testsOnce c = true) {b : Bool}
    (hb : b = true → c = .free) {around qs : List Place} (ha : .lastOfMany ∉ around)
    (hq : some qs ∈ r.places c b around) : .lastOfMany ∉ qs := by
  cases r with
  | closing => simp [Branches.places] at hq
  | elseIf body rest =>
    rw [Branches.testsOnce, Bool.and_eq_true, Bool.and_eq_true, decide_eq_true_eq] at h
    rw [Branches.places, List.mem_cons, List.mem_append] at hq
    rcases hq with hq | hq | hq
    · cases hq
    · refine body.lastOfMany_not_mem h.2.1 ?_ hq
      exact List.not_mem_cons_of_ne_of_not_mem (by simp [Place.lastOfMany]) ha
    · exact rest.lastOfMany_not_mem h.2.2 (fun _ => h.1) ha hq
  | otherwise body =>
    rw [Branches.places, List.mem_cons, List.mem_append, List.mem_singleton] at hq
    rcases hq with hq | hq | hq
    · cases hq
    · refine body.lastOfMany_not_mem h ?_ hq
      apply List.not_mem_cons_of_ne_of_not_mem _ ha
      intro he
      obtain ⟨rfl, rfl⟩ := Place.otherwise.inj he
      cases hb rfl
    · cases hq

end

mutual

lemma Parts.map_isSome_places (p : Parts) (around : List Place) :
    (p.places around).map Option.isSome = p.kinds.map fun k => decide (k = .text) := by
  cases p with
  | nil => rfl
  | text next => rw [Parts.places, Parts.kinds, List.map_cons, List.map_cons, next.map_isSome_places]; rfl
  | inert next => rw [Parts.places, Parts.kinds, List.map_cons, List.map_cons, next.map_isSome_places]; rfl
  | group c body rest next =>
    rw [Parts.places, Parts.kinds, List.map_cons, List.map_cons, List.map_append, List.map_append,
      List.map_append, List.map_append, body.map_isSome_places, rest.map_isSome_places,
      next.map_isSome_places]
    rfl

lemma Branches.map_isSome_places (r : Branches) (c : Condition) (b : Bool) (around : List Place) :
    (r.places c b around).map Option.isSome = r.kinds.map fun k => decide (k = .text) := by
  cases r with
  | closing => rfl
  | elseIf body rest =>
    rw [Branches.places, Branches.kinds, List.map_cons, List.map_cons, List.map_append, List.map_append,
      body.map_isSome_places, rest.map_isSome_places]
    rfl
  | otherwise body =>
    rw [Branches.places, Branches.kinds, List.map_cons, List.map_cons, List.map_append, List.map_append,
      body.map_isSome_places]
    rfl

end

lemma Recognised.places_of_text {parts : Parts} {source : String} (hn : Recognised parts source) {i : Nat}
    (hr : (roles false (lines source.toList))[i]? = some .text) {line : List Char}
    (hl : (lines source.toList)[i]? = some line) :
    ∃ around, (parts.places [])[i]? = some (some around) := by
  have hk : parts.kinds[i]? = some .text := by
    rw [hn, recognisedKinds, List.getElem?_zipWith, hr, hl]
    rfl
  have hs := congrArg (fun bs => bs[i]?) (parts.map_isSome_places [])
  rw [List.getElem?_map, List.getElem?_map, hk, Option.map_some, decide_eq_true rfl,
    Option.map_eq_some_iff] at hs
  obtain ⟨places, hp, hsome⟩ := hs
  obtain ⟨around, rfl⟩ := Option.isSome_iff_exists.mp hsome
  exact ⟨around, hp⟩

/-- A line of text is blanked exactly if one of the branches around it, however far out, is for C++
alone; it stays as it is otherwise. -/
theorem text_blanked_iff_forCplusplus {parts : Parts} {source : String} (hn : Recognised parts source)
    (hs : Spaced source) (ht : parts.testsOnce = true) {i : Nat} {line : List Char}
    (hl : (lines source.toList)[i]? = some line)
    (hr : (roles false (lines source.toList))[i]? = some .text) :
    ∃ around, (parts.places [])[i]? = some (some around) ∧
      (lines (mask source).toList)[i]? =
        some (if ∃ q ∈ around, q.isForCplusplus = true then blank line else line) := by
  obtain ⟨around, ha⟩ := hn.places_of_text hr hl
  refine ⟨around, ha, ?_⟩
  have hm : .lastOfMany ∉ around :=
    parts.lastOfMany_not_mem ht (by simp) (List.mem_of_getElem? ha)
  have hb : isBlanked (some around) = true ↔ ∃ q ∈ around, q.isForCplusplus = true := by
    rw [isBlanked, Option.any_some, List.any_eq_true]
    refine exists_congr fun q => and_congr_right fun hq => ?_
    rw [Place.isMasked_eq (by rintro rfl; exact hm hq)]
  rw [hn.mask_getElem? hs ha, hl, Option.map_some, if_congr hb rfl rfl]

theorem text_blanked_around_other_conditions :
    let source := "#ifndef A_H \\\n(A)\n#ifdef __cplusplus\n#if X\n a\n#elif Y \n b \\\n#endif\n#else\n c\n#endif\n#endif"
    let parts := Parts.group .free
      (.inert (.group .cplusplus (.group .free (.text .nil) (.elseIf (.text .nil) .closing) .nil)
        (.otherwise (.text .nil)) .nil)) .closing .nil
    Recognised parts source ∧ Spaced source ∧ parts.testsOnce = true ∧
      (roles false (lines source.toList))[6]? = some .text ∧
      (lines source.toList)[6]? = some " b \\\n".toList ∧
      (lines (mask source).toList)[6]? = some "    \n".toList := by
  intro source parts
  have hn : Recognised parts source := by decide +kernel
  have hs : Spaced source := by decide +kernel
  have hr : (roles false (lines source.toList))[6]? = some .text := by decide +kernel
  have hl : (lines source.toList)[6]? = some " b \\\n".toList := by decide +kernel
  obtain ⟨around, ha, hm⟩ := text_blanked_iff_forCplusplus hn hs rfl hl hr
  have hp : (parts.places [])[6]? =
      some (some [.elseIf .free, .first .cplusplus, .first .free]) := rfl
  obtain rfl := Option.some.inj (Option.some.inj (hp.symm.trans ha))
  rw [if_pos ⟨.first .cplusplus, by simp, rfl⟩] at hm
  exact ⟨hn, hs, rfl, hr, hl, hm.trans (by decide +kernel)⟩

end Quadrature.C.Guard
