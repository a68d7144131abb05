import Quadrature.Proofs.PathSegments

/-! The directories above a path. Each has the first parts of the path, and joining the others to it leads to the same
place. -/

namespace Quadrature.Path

open Text Store

variable {path dir x : String} {a xs : List String} {cs rs : List Char}

/-- Of two texts, both backwards, the second is the first without slashes and lone dots at its end. -/
structure Trims (rs ts : List Char) : Prop where
  suffix : ts <:+ rs
  segments : segmentsOf ts.reverse = segmentsOf rs.reverse
  absolute : ts.getLast? = rs.getLast?

lemma Trims.refl (rs : List Char) : Trims rs rs := ⟨List.suffix_rfl, rfl, rfl⟩

lemma segmentsOf_blank {b : List Char} (hb : segmentsOf b = []) (cs : List Char) :
    segmentsOf (cs ++ '/' :: b) = segmentsOf cs := by
  rw [segmentsOf_append_slash, hb, List.append_nil]

lemma trims_trimBack (rs : List Char) : Trims rs (trimBack rs) := by
  fun_induction trimBack rs with
  | case1 => exact .refl []
  | case2 => exact .refl ['/']
  | case3 cs hne ih =>
    refine ⟨ih.suffix.trans (List.suffix_cons '/' cs), ?_, ?_⟩
    · rw [ih.segments, List.reverse_cons]
      exact (segmentsOf_blank rfl cs.reverse).symm
    · rw [ih.absolute, List.getLast?_cons_of_ne_nil hne]
  | case4 => exact ⟨List.suffix_cons '.' ['/'], rfl, rfl⟩
  | case5 r hne _ ih =>
    refine ⟨ih.suffix.trans ((List.suffix_cons '/' r).trans (List.suffix_cons '.' _)), ?_, ?_⟩
    · rw [ih.segments, List.reverse_cons, List.reverse_cons, List.append_assoc]
      exact (segmentsOf_blank (b := ['.']) rfl r.reverse).symm
    · rw [ih.absolute, List.getLast?_cons_of_ne_nil (by simp), List.getLast?_cons_of_ne_nil hne]
  | case6 cs => exact .refl _
  | case7 c cs => exact .refl _

lemma isSegment_of_trimBack (rs : List Char) (h : segmentsOf (trimBack rs).reverse ≠ []) :
    isSegment (String.ofList ((trimBack rs).takeWhile (· ≠ '/')).reverse) = true := by
  fun_induction trimBack rs with
  | case1 => exact absurd rfl h
  | case2 => exact absurd rfl h
  | case3 cs hne ih => exact ih h
  | case4 => exact absurd rfl h
  | case5 r hne _ ih => exact ih h
  | case6 cs hcs =>
    cases cs with
    | nil => exact absurd rfl h
    | cons d ds =>
      have hd : d ≠ '/' := fun he => hcs ds (by rw [he])
      have hne : ∀ es : List Char, es ++ [d, '.'] ≠ ['.'] := by
        intro es he
        simpa using congrArg List.length he
      simp [isSegment, ← String.toList_inj, hd, hne]
  | case7 c cs hslash hdot =>
    have hne : ∀ ds : List Char, ds ++ [c] ≠ ['.'] := by
      intro ds he
      exact hdot (by simpa using congrArg List.getLast? he)
    simp [isSegment, ← String.toList_inj, hslash, hne]

lemma head?_of_trimBack (rs : List Char) (h : segmentsOf (trimBack rs).reverse ≠ []) :
    (trimBack rs).head? ≠ some '/' := by
  intro hhead
  obtain ⟨tail, he⟩ := List.head?_eq_some_iff.mp hhead
  have hs := isSegment_of_trimBack rs h
  rw [he, List.takeWhile_cons_of_neg (by simp)] at hs
  exact absurd hs (by decide)

lemma not_mem_takeWhile_slash (ts : List Char) : '/' ∉ ts.takeWhile (· ≠ '/') := by
  intro hm
  simpa using List.mem_takeWhile_imp hm

lemma head?_dropPart {ts : List Char} (h : dropPart ts ≠ []) : (dropPart ts).head? = some '/' := by
  have hc := List.head?_dropWhile_not (· ≠ '/') ts
  rw [dropPart] at h ⊢
  cases hd : ts.dropWhile (· ≠ '/') with
  | nil => exact absurd hd h
  | cons c us =>
    rw [hd] at hc
    simpa using hc

lemma takeWhile_append_dropPart (ts : List Char) : ts.takeWhile (· ≠ '/') ++ dropPart ts = ts :=
  List.takeWhile_append_dropWhile

lemma segmentsOf_dropPart {ts : List Char}
    (h : isSegment (String.ofList (ts.takeWhile (· ≠ '/')).reverse) = true) :
    segmentsOf ts.reverse =
      segmentsOf (dropPart ts).reverse ++ [String.ofList (ts.takeWhile (· ≠ '/')).reverse] := by
  have hsegment := segmentsOf_of_not_mem (mt List.mem_reverse.mp (not_mem_takeWhile_slash ts))
  rw [List.filter_cons_of_pos h, List.filter_nil] at hsegment
  conv_lhs => rw [← takeWhile_append_dropPart ts, List.reverse_append]
  by_cases hrest : dropPart ts = []
  · rw [hrest]
    exact hsegment
  · obtain ⟨us, hus⟩ := List.head?_eq_some_iff.mp (head?_dropPart hrest)
    rw [hus, List.reverse_cons, List.append_assoc, List.singleton_append, segmentsOf_append_slash, hsegment,
      segmentsOf_blank rfl]

lemma parent?_of_segments (h : segments path ≠ []) :
    parent? path = some (String.ofList (trimBack (dropPart (trimBack path.toList.reverse))).reverse) := by
  have hparts : parts path ≠ [] := by
    intro he
    rw [segments, components, he] at h
    split_ifs at h <;> exact h rfl
  obtain ⟨init, p, hp⟩ := (List.eq_nil_or_concat _).resolve_left hparts
  have hlast : (components path).getLast? = some (.ofPart p) := by
    rw [components, hp, List.concat_eq_append, List.map_append, List.map_singleton]
    split_ifs
    · rw [← List.cons_append, List.getLast?_concat]
    · exact List.getLast?_concat
  have hroot : Component.ofPart p ≠ .root := by
    rw [Component.ofPart]
    split_ifs <;> simp
  rw [parent?, hlast]
  split
  · next he => cases he
  · next he => exact absurd (Option.some.inj he) hroot
  · rfl

def lead (dir : String) : String :=
  if dir = "" then "" else if dir.toList.getLast? == some '/' then dir else dir ++ "/"

lemma join_eq (h : isAbsolute x = false) : join dir x = lead dir ++ x := by
  rw [join, lead, h, Bool.false_or]
  by_cases hd : dir = ""
  · simp [hd]
  · rw [if_neg (by simpa using hd), if_neg hd]
    split_ifs <;> rfl

lemma mem_lead {c : Char} (h : c ∈ (lead dir).toList) : c = '/' ∨ c ∈ dir.toList := by
  rw [lead] at h
  split_ifs at h
  · cases h
  · exact .inr h
  · rw [String.toList_append, List.mem_append] at h
    exact h.symm.imp_left List.mem_singleton.mp

def ancestor : Nat → String → Option String
  | 0, path => some path
  | n + 1, path => (ancestor n path).bind parent?

/-- A directory above a path, by the segments of the path that lead on from it. -/
structure Above (dir path : String) (xs : List String) : Prop where
  ancestor : ancestor xs.length path = some dir
  segments : segments path = segments dir ++ xs
  absolute : isAbsolute dir = isAbsolute path
  subset : dir.toList ⊆ path.toList
  fits : byteLength (lead dir ++ Text.join "/" xs).toList ≤ byteLength path.toList
  bare : Path.segments dir ≠ [] → dir.toList.getLast? ≠ some '/'

lemma byteLength_reverse (cs : List Char) : byteLength cs.reverse = byteLength cs := by
  induction cs with
  | nil => rfl
  | cons c cs ih =>
    rw [List.reverse_cons, byteLength_append, ih, byteLength_cons, byteLength_cons, byteLength_nil]
    omega

lemma one_le_byteLength (h : cs ≠ []) : 1 ≤ byteLength cs := by
  cases cs with
  | nil => exact absurd rfl h
  | cons c cs =>
    have := c.utf8Size_pos
    rw [byteLength_cons]
    omega

lemma byteLength_lead_le {vs : List Char} {n : Nat} (h : vs ≠ [] → vs.head? ≠ some '/' → 1 ≤ n) :
    byteLength (lead (String.ofList vs.reverse)).toList ≤ n + byteLength vs := by
  have hvs := byteLength_reverse vs
  rw [lead]
  split_ifs with hd hl
  · simp
  · rw [String.toList_ofList, hvs]
    exact Nat.le_add_left _ _
  · rw [String.toList_append, String.toList_ofList, byteLength_append, hvs, Nat.add_comm]
    rw [String.toList_ofList, List.getLast?_reverse, beq_iff_eq] at hl
    exact Nat.add_le_add_right (h (fun he => hd (by rw [he]; rfl)) hl) _

lemma absolute_dropPart (ts : List Char) :
    ((dropPart ts).getLast? == some '/') = (ts.getLast? == some '/') := by
  have hsplit := takeWhile_append_dropPart ts
  by_cases hu : dropPart ts = []
  · have hts : ts.getLast? ≠ some '/' := by
      intro he
      rw [← hsplit, hu, List.append_nil] at he
      exact not_mem_takeWhile_slash ts (List.mem_of_getLast? he)
    rw [hu, List.getLast?_nil, beq_eq_false_iff_ne.mpr hts]
    rfl
  · conv_rhs => rw [← hsplit, List.getLast?_append_of_ne_nil _ hu]

lemma byteLength_of_trims {ts vs : List Char} (ht : Trims rs ts) (hu : Trims (dropPart ts) vs) :
    byteLength (lead (String.ofList vs.reverse)).toList + byteLength (ts.takeWhile (· ≠ '/')) ≤ byteLength rs := by
  obtain ⟨j, hj⟩ := ht.suffix
  obtain ⟨k, hk⟩ := hu.suffix
  have hroom : vs ≠ [] → vs.head? ≠ some '/' → 1 ≤ byteLength k := by
    intro hne hhead
    refine one_le_byteLength ?_
    rintro rfl
    rw [List.nil_append] at hk
    exact hhead (hk ▸ head?_dropPart (hk ▸ hne))
  have hlead := byteLength_lead_le hroom
  have hts : byteLength ts = byteLength (ts.takeWhile (· ≠ '/')) + (byteLength k + byteLength vs) := by
    rw [← byteLength_append, hk, ← byteLength_append, takeWhile_append_dropPart]
  rw [← hj, byteLength_append]
  omega

lemma isAbsolute_ofList_reverse (rs : List Char) :
    isAbsolute (String.ofList rs.reverse) = (rs.getLast? == some '/') := by
  rw [isAbsolute, String.toList_ofList, List.head?_reverse]

lemma exists_above_last (h : segments path = a ++ [x]) : ∃ dir, segments dir = a ∧ Above dir path [x] := by
  obtain ⟨rs, rfl⟩ : ∃ rs : List Char, path = String.ofList rs.reverse :=
    ⟨path.toList.reverse, by rw [List.reverse_reverse, String.ofList_toList]⟩
  have hparent : parent? (String.ofList rs.reverse) =
      some (String.ofList (trimBack (dropPart (trimBack rs))).reverse) := by
    rw [parent?_of_segments (by simp [h]), String.toList_ofList, List.reverse_reverse]
  rw [segments_eq, String.toList_ofList] at h
  -- `ts` is the path trimmed, and `vs` what is left of `ts` without its last segment, trimmed again
  have ht := trims_trimBack rs
  have hlast := isSegment_of_trimBack rs (by simp [ht.segments, h])
  generalize trimBack rs = ts at hparent ht hlast
  have hu := trims_trimBack (dropPart ts)
  have hbare := head?_of_trimBack (dropPart ts)
  generalize trimBack (dropPart ts) = vs at hparent hu hbare
  obtain ⟨rfl, hx⟩ : segmentsOf (dropPart ts).reverse = a ∧ String.ofList (ts.takeWhile (· ≠ '/')).reverse = x := by
    rw [← ht.segments, segmentsOf_dropPart hlast] at h
    simpa using h
  have hdir : segments (String.ofList vs.reverse) = segmentsOf (dropPart ts).reverse := by
    rw [segments_eq, String.toList_ofList, hu.segments]
  have hsuffix : dropPart ts <:+ ts := List.dropWhile_suffix _
  refine ⟨String.ofList vs.reverse, hdir, hparent, ?_, ?_, ?_, ?_, ?_⟩
  · rw [hdir, ← h, segments_eq, String.toList_ofList]
  · rw [isAbsolute_ofList_reverse, isAbsolute_ofList_reverse, hu.absolute, ← ht.absolute, absolute_dropPart]
  · simpa using (hu.suffix.trans (hsuffix.trans ht.suffix)).subset
  · rw [← hx, Text.join, String.toList_append, byteLength_append, String.toList_ofList, String.toList_ofList,
      byteLength_reverse, byteLength_reverse]
    exact byteLength_of_trims ht hu
  · rw [hdir, ← hu.segments, String.toList_ofList, List.getLast?_reverse]
    exact hbare

lemma lead_of_segments (h : segments dir ≠ []) (hbare : dir.toList.getLast? ≠ some '/') : lead dir = dir ++ "/" := by
  have hne : dir ≠ "" := by
    rintro rfl
    exact h rfl
  rw [lead, if_neg hne, if_neg (by simpa using hbare)]

lemma exists_above (y : String) (ys : List String) (h : segments path = a ++ y :: ys) :
    ∃ dir, segments dir = a ∧ Above dir path (y :: ys) := by
  induction ys generalizing a y with
  | nil => exact exists_above_last h
  | cons z zs ih =>
    have hsplit : segments path = (a ++ [y]) ++ z :: zs := by rw [h, List.append_assoc]; rfl
    obtain ⟨mid, hmid, hab⟩ := ih z hsplit
    obtain ⟨dir, hdir, hlast⟩ := exists_above_last hmid
    have hne : segments mid ≠ [] := by simp [hmid]
    have hfits := hab.fits
    rw [lead_of_segments hne (hab.bare hne)] at hfits
    refine ⟨dir, hdir, ?_, ?_, hlast.absolute.trans hab.absolute, List.Subset.trans hlast.subset hab.subset, ?_,
      hlast.bare⟩
    · rw [List.length_cons, Path.ancestor, hab.ancestor]
      exact hlast.ancestor
    · rw [hdir, h]
    · refine le_trans ?_ hfits
      have hmid := hlast.fits
      have hslash : byteLength "/".toList = '/'.utf8Size := rfl
      rw [Text.join] at hmid
      simp only [String.toList_append, byteLength_append, toList_join_cons, byteLength_cons] at hmid ⊢
      omega

lemma exists_parts_lead (dir dep : String) :
    ∃ ps : List String, ps.filter isSegment = segments dir ∧ pathParts (lead dir ++ dep) = ps ++ pathParts dep := by
  have hslash : ∀ cs : List Char, segmentsOf cs = segments dir → (lead dir).toList = cs ++ ['/'] →
      ∃ ps : List String, ps.filter isSegment = segments dir ∧ pathParts (lead dir ++ dep) = ps ++ pathParts dep := by
    intro cs hcs he
    refine ⟨(splitOn '/' cs).map String.ofList, hcs, ?_⟩
    rw [pathParts, String.toList_append, he, List.append_assoc, List.singleton_append, splitOn_append_sep,
      List.map_append]
    rfl
  rw [segments_eq] at hslash ⊢
  by_cases hd : dir = ""
  · refine ⟨[], by rw [hd]; rfl, ?_⟩
    rw [lead, if_pos hd, String.empty_append, List.nil_append]
  · by_cases hl : dir.toList.getLast? = some '/'
    · obtain ⟨init, hi⟩ := List.getLast?_eq_some_iff.mp hl
      refine hslash init ?_ ?_
      · rw [hi, segmentsOf_blank rfl]
      · rw [lead, if_neg hd, if_pos (by simpa using hl), hi]
    · refine hslash dir.toList rfl ?_
      rw [lead, if_neg hd, if_neg (by simpa using hl), String.toList_append]
      rfl

lemma isAbsolute_lead_append (dir : String) {dep : String} (h : isAbsolute dep = false) :
    isAbsolute (lead dir ++ dep) = isAbsolute dir := by
  rw [lead]
  by_cases hd : dir = ""
  · rw [if_pos hd, String.empty_append, h, hd]
    rfl
  · obtain ⟨c, cs, hc⟩ := List.exists_cons_of_ne_nil (fun he => hd (String.toList_eq_nil_iff.mp he))
    rw [if_neg hd]
    split_ifs <;> simp [isAbsolute, hc]

end Quadrature.Path
