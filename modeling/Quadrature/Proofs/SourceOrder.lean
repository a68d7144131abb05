import Quadrature.Proofs.DeclarationText

/-! Extracted declarations come in the order in which the text has them, and no body gives any. -/

namespace Quadrature.C

variable {lo hi : Position} {ss ts : List Site} {xs ys : List Extent}

lemma Position.one_le_after (cs : List Char) :
    1 ≤ (Position.start.after cs).line ∧ 1 ≤ (Position.start.after cs).column := by
  have hfrom : ∀ p : Position, 1 ≤ p.line ∧ 1 ≤ p.column → 1 ≤ (p.after cs).line ∧ 1 ≤ (p.after cs).column := by
    induction cs with
    | nil => exact fun p hp => hp
    | cons c cs ih =>
      intro p hp
      apply ih
      rw [Position.next]
      split_ifs
      · exact ⟨by simp, le_rfl⟩
      · exact ⟨hp.1, hp.2.trans (Nat.le_add_right _ _)⟩
  exact hfrom .start ⟨le_rfl, le_rfl⟩

/-- Extents of sites in their order. A declaration with several declarators gives its own several times. -/
structure Follows (ss : List Site) (xs : List Extent) : Prop where
  sites : ∀ x ∈ xs, ∃ s ∈ ss, s.1 = x
  order : xs.Pairwise fun x y => x = y ∨ x.last ≤ y.first

lemma Follows.nil : Follows [] [] where
  sites _ hx := absurd hx List.not_mem_nil
  order := .nil

lemma Follows.append (h : Follows ss xs) (h' : Follows ts ys) (hs : Spread lo (ss ++ ts) hi) :
    Follows (ss ++ ts) (xs ++ ys) where
  sites x hx := by
    rcases List.mem_append.mp hx with hx | hx
    · obtain ⟨s, hmem, rfl⟩ := h.sites x hx
      exact ⟨s, List.mem_append_left ts hmem, rfl⟩
    · obtain ⟨t, hmem, rfl⟩ := h'.sites x hx
      exact ⟨t, List.mem_append_right ss hmem, rfl⟩
  order := by
    refine List.pairwise_append.mpr ⟨h.order, h'.order, fun x hx y hy => .inr ?_⟩
    obtain ⟨s, hmem, rfl⟩ := h.sites x hx
    obtain ⟨t, hmem', rfl⟩ := h'.sites y hy
    obtain ⟨mid, hss, hts⟩ := hs.split
    cases hss.of_mem hmem with
    | cons _ _ _ hlast =>
      cases hts.of_mem hmem' with
      | cons hfirst _ _ _ => exact hlast.le.trans hfirst

lemma follows_of_eq {s : Site} (h : ∀ x ∈ xs, x = s.1) : Follows [s] xs where
  sites x hx := ⟨s, List.mem_singleton.mpr rfl, (h x hx).symm⟩
  order := List.pairwise_of_forall_mem_list fun x hx y hy => .inl ((h x hx).trans (h y hy).symm)

def Origin.extents (os : List (Origin × Node)) : List Extent := os.map fun o => o.2.extent

mutual

lemma Item.follows_origins (item : Item) (aliases : Aliases) {lo hi : Position} (h : Spread lo item.sites hi) :
    Follows item.sites (Origin.extents (item.origins aliases)) := by
  cases item with
  | definition e s d old b locals =>
    rw [Item.sites, Item.origins, Origin.extents, List.map_map]
    exact follows_of_eq (List.forall_mem_map.mpr fun n hn => (Item.outline_definition n hn).2)
  | declaration d =>
    rw [Item.sites, Item.origins, Origin.extents, List.map_map]
    exact follows_of_eq (List.forall_mem_map.mpr fun n hn => (Declaration.mem_functionNodes n hn).2)
  | typeDefinition d =>
    rw [Item.sites, Item.origins]
    exact .nil
  | conditional e items | linkage e items | braces e items =>
    rw [Item.sites] at h ⊢
    rw [Item.origins]
    exact follows_originsOf items aliases h

lemma follows_originsOf (items : List Item) (aliases : Aliases) {lo hi : Position}
    (h : Spread lo (sitesOf items) hi) :
    Follows (sitesOf items) (Origin.extents (originsOf aliases items)) := by
  cases items with
  | nil =>
    rw [sitesOf, originsOf]
    exact .nil
  | cons item rest =>
    rw [sitesOf] at h ⊢
    rw [originsOf, Origin.extents, List.map_append]
    obtain ⟨mid, hitem, hrest⟩ := h.split
    exact (item.follows_origins aliases hitem).append (follows_originsOf rest _ hrest) h

end

lemma Spread.not_inside {e b : Extent} {s : Site} (h : Spread lo ss hi) (he : (e, some b) ∈ ss) (hs : s ∈ ss) :
    ¬ (b.first ≤ s.1.first ∧ s.1.last ≤ b.last) := by
  rintro ⟨hfirst, hlast⟩
  have hbody : e.first < b.first ∧ b.last ≤ e.last := by
    cases h.of_mem he with
    | cons _ _ hb _ => exact hb b rfl
  have hsite : s.1.first < s.1.last := by
    cases h.of_mem hs with
    | cons _ hs _ _ => exact hs
  rcases h.apart he hs with rfl | hbehind | hbefore
  · exact hfirst.not_gt hbody.1
  · exact (hbehind.trans_lt hsite).not_ge (hlast.trans hbody.2)
  · exact (hbody.1.trans_le (hfirst.trans hsite.le)).not_ge hbefore

lemma Extent.Covers.bounds {done : List Char} {e : Extent} {z : Char} (h : e.Covers done z) :
    1 ≤ e.startLine ∧ 1 ≤ e.startColumn ∧ 1 ≤ e.endLine ∧ 1 ≤ e.endColumn ∧ e.first < e.last := by
  obtain ⟨a, b, rest, -, rfl, ⟨c, hc, -⟩, -⟩ := h
  have hb : b ≠ [] := by
    rintro rfl
    exact nomatch hc
  have hstart := Position.one_le_after a
  have hend := Position.one_le_after (a ++ b)
  refine ⟨hstart.1, hstart.2, hend.1, hend.2, ?_⟩
  have hlt := (Position.start.after a).lt_after hb
  rwa [← Position.after_append] at hlt

end Quadrature.C

namespace Quadrature

open C

lemma extents_of_recorded {path : String} {os : List (Origin × Node)} {ds : List FunctionDeclaration}
    (h : List.Forall₂ (fun o d => Extraction.record path o.2 = .ok d) os ds) :
    ds.map FunctionDeclaration.extent? = (Origin.extents os).map some := by
  induction h with
  | nil => rfl
  | @cons o d os ds hd _ ih =>
    have hextent : d.extent? = some o.2.extent := by
      rw [FunctionDeclaration.extent?, (Extraction.source_of_record hd).1]
      rfl
    rw [List.map_cons, ih, hextent]
    rfl

/-- The extents of all declarations: they count from one, are not empty and follow one another, with that
of a declaration again for each of its declarators. None of them stands in the body of a function. -/
theorem declarations_follow_source {files : Store} {path : String} {s : SourceFile}
    (h : SourceFile.load files path = .ok s) :
    ∃ content u, ∃ extents : List Extent, files.readText path = .ok content ∧
      SourceUnit.read (Guard.mask content) = .ok u ∧
      s.declarations.map FunctionDeclaration.extent? = extents.map some ∧
      (∀ x ∈ extents, 1 ≤ x.startLine ∧ 1 ≤ x.startColumn ∧ 1 ≤ x.endLine ∧ 1 ≤ x.endColumn ∧
        x.first < x.last) ∧
      extents.Pairwise (fun x y => x = y ∨ x.last ≤ y.first) ∧
      ∀ e b, (e, some b) ∈ sitesOf u.items → ∀ x ∈ extents, ¬ (b.first ≤ x.first ∧ x.last ≤ b.last) := by
  obtain ⟨content, u, hf, hu, -, hrec⟩ := recorded_of_load h
  obtain ⟨lo, hi, hspread⟩ := SourceUnit.spread_of_read hu
  have hfollows := follows_originsOf u.items [] hspread
  refine ⟨content, u, Origin.extents (originsOf [] u.items), hf, hu, ?_, ?_, hfollows.order, ?_⟩
  · exact extents_of_recorded hrec
  · intro x hx
    obtain ⟨o, ho, rfl⟩ := List.mem_map.mp hx
    exact (covers_originsOf hu o ho).bounds
  · intro e b hb x hx
    obtain ⟨site, hsite, rfl⟩ := hfollows.sites x hx
    exact hspread.not_inside hb hsite

theorem declarations_follow_source_in_branches :
    let files : Store :=
      { entries := [(["a.h"], .text ("int f(int), g(void);\n#if A\nextern \"C\" \x7b\n" ++
        "int h(void) \x7b int k(int); return 0; \x7d\n\x7d\n#elif B\nint m(char);\n" ++
        "#else\n#ifdef C\nlong n(void);\n#endif\n#endif\nint z(void);"))] }
    ∃ s, SourceFile.load files "a.h" = .ok s ∧
      s.declarations.map FunctionDeclaration.name = ["f", "g", "h", "m", "n", "z"] ∧
      ∃ content u, ∃ extents : List Extent, files.readText "a.h" = .ok content ∧
        SourceUnit.read (Guard.mask content) = .ok u ∧
        s.declarations.map FunctionDeclaration.extent? = extents.map some ∧
        (∀ x ∈ extents, 1 ≤ x.startLine ∧ 1 ≤ x.startColumn ∧ 1 ≤ x.endLine ∧ 1 ≤ x.endColumn ∧
          x.first < x.last) ∧
        extents.Pairwise (fun x y => x = y ∨ x.last ≤ y.first) ∧
        ∀ e b, (e, some b) ∈ sitesOf u.items → ∀ x ∈ extents, ¬ (b.first ≤ x.first ∧ x.last ≤ b.last) := by
  intro files
  have hs : (SourceFile.load files "a.h").toOption.any (fun s =>
      s.declarations.map FunctionDeclaration.name = ["f", "g", "h", "m", "n", "z"]) = true := by
    decide +kernel
  cases hl : SourceFile.load files "a.h" with
  | error f => rw [hl] at hs; exact nomatch hs
  | ok s =>
    rw [hl] at hs
    exact ⟨s, rfl, of_decide_eq_true hs, declarations_follow_source hl⟩

end Quadrature
