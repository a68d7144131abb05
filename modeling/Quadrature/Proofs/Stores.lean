import Quadrature.Files.Store
import Mathlib.Data.List.Basic

/-! What stands at the places of a store after it is written to. Directories are never taken away, so a
path leads to the same place afterwards, and only the place that is written to holds another file. Two
paths that differ only in the end of their last part lead to files at different places. -/

namespace Quadrature.Text

lemma splitOn_of_not_mem {sep : Char} {b : List Char} (hb : sep ∉ b) : splitOn sep b = [b] := by
  induction b with
  | nil => rfl
  | cons c b ih =>
    obtain ⟨hc, hb⟩ := List.ne_and_not_mem_of_not_mem_cons hb
    rw [splitOn, if_neg (Ne.symm hc), ih hb]

lemma exists_splitOn_append (sep : Char) (a : List Char) :
    ∃ init last, ∀ b, sep ∉ b → splitOn sep (a ++ b) = init ++ [last ++ b] := by
  induction a with
  | nil => exact ⟨[], [], fun b hb => splitOn_of_not_mem hb⟩
  | cons c a ih =>
    obtain ⟨init, last, h⟩ := ih
    by_cases hc : c = sep
    · refine ⟨[] :: init, last, fun b hb => ?_⟩
      rw [List.cons_append, splitOn, if_pos hc, h b hb, List.cons_append]
    · cases init with
      | nil =>
        refine ⟨[], c :: last, fun b hb => ?_⟩
        rw [List.cons_append, splitOn, if_neg hc, h b hb]
        rfl
      | cons x init =>
        refine ⟨(c :: x) :: init, last, fun b hb => ?_⟩
        rw [List.cons_append, splitOn, if_neg hc, h b hb]
        rfl

end Quadrature.Text

namespace Quadrature.Store

variable {s t u : Store} {p q : Place} {e : Entry} {path content : String}

def file? (s : Store) (p : Place) : Option Entry := (s.at? p).filter (· ≠ .directory)

lemma lookup_cons_eq (f : Place × Entry) (es : List (Place × Entry)) (q : Place) :
    (f :: es).lookup q = if q = f.1 then some f.2 else es.lookup q := by
  by_cases h : q = f.1
  · rw [List.lookup_cons, if_pos h, h, beq_self_eq_true]
  · rw [List.lookup_cons, if_neg h, beq_false_of_ne h]

lemma lookup_putEntry (p q : Place) (e : Entry) (es : List (Place × Entry)) :
    (putEntry p e es).lookup q = if q = p then some e else es.lookup q := by
  induction es with
  | nil => rw [putEntry, lookup_cons_eq]
  | cons f es ih =>
    by_cases hf : p = f.1
    · rw [putEntry, if_pos hf, lookup_cons_eq, lookup_cons_eq, ← hf]
      by_cases h : q = p
      · rw [if_pos h, if_pos h]
      · rw [if_neg h, if_neg h, if_neg h]
    · rw [putEntry, if_neg hf, lookup_cons_eq, lookup_cons_eq, ih]
      by_cases h : q = p
      · rw [if_pos h, if_pos h, if_neg (h ▸ hf)]
      · rw [if_neg h, if_neg h]

lemma at?_put_of_ne (h : q ≠ p) : (s.put p e).at? q = s.at? q := by
  simp [at?, put, lookup_putEntry, h]

lemma at?_put_self (h : s.at? p ≠ some .directory) : (s.put p e).at? p = some e := by
  have hw : ¬ p.isPrefixOf s.workingDirectory = true := by
    intro hp
    rw [at?, if_pos hp] at h
    exact h rfl
  rw [at?, put, if_neg hw, lookup_putEntry, if_pos rfl]

lemma file?_put_of_ne (h : q ≠ p) : (s.put p e).file? q = s.file? q := by
  rw [file?, file?, at?_put_of_ne h]

structure Grows (s t : Store) : Prop where
  workingDirectory : t.workingDirectory = s.workingDirectory
  directories : ∀ p, s.at? p = some .directory → t.at? p = some .directory

lemma Grows.refl (s : Store) : Grows s s := ⟨rfl, fun _ h => h⟩

lemma Grows.trans (h : Grows s t) (h' : Grows t u) : Grows s u :=
  ⟨h'.workingDirectory.trans h.workingDirectory, fun p hp => h'.directories p (h.directories p hp)⟩

lemma grows_put (h : s.at? p ≠ some .directory) (e : Entry) : Grows s (s.put p e) := by
  refine ⟨rfl, fun q hq => ?_⟩
  have hne : q ≠ p := by
    rintro rfl
    exact h hq
  rw [at?_put_of_ne hne, hq]

lemma step_ok {part : String} (h : s.step p part = .ok q) : s.at? p = some .directory := by
  rw [step] at h
  split at h
  · cases h
  · next hp => exact hp
  · cases h

lemma Grows.step (h : Grows s t) {part : String} (hs : s.step p part = .ok q) :
    t.step p part = .ok q := by
  have hd := step_ok hs
  simp only [Store.step, hd, h.directories p hd] at hs ⊢
  exact hs

lemma Grows.walk (h : Grows s t) {parts : List String} (hw : s.walk p parts = .ok q) :
    t.walk p parts = .ok q := by
  induction parts generalizing p with
  | nil => exact hw
  | cons part rest ih =>
    rw [Store.walk] at hw ⊢
    cases hs : s.step p part with
    | error e =>
      rw [hs] at hw
      cases hw
    | ok r =>
      rw [hs] at hw
      rw [h.step hs]
      exact ih hw

lemma Grows.locate (h : Grows s t) (hl : s.locate path = .ok p) : t.locate path = .ok p := by
  rw [Store.locate] at hl ⊢
  cases hc : checkPath path with
  | error e =>
    rw [hc] at hl
    cases hl
  | ok u =>
    rw [hc] at hl
    have hs : t.start path = s.start path := by rw [start, start, h.workingDirectory]
    rw [hs]
    exact h.walk hl

lemma entry_of_locate (hl : s.locate path = .ok p) (he : s.at? p = some e) :
    s.entry path = .ok e := by
  simp [entry, hl, he]

lemma locate_of_entry (h : s.entry path = .ok e) :
    ∃ p, s.locate path = .ok p ∧ s.at? p = some e := by
  rw [entry] at h
  split at h
  · cases h
  · next p hp =>
    split at h
    · next e' he =>
      obtain rfl := Except.ok.inj h
      exact ⟨p, hp, he⟩
    · cases h

lemma readText_of_locate (hl : s.locate path = .ok p) (he : s.at? p = some (.text content)) :
    s.readText path = .ok content := by
  simp [readText, entry_of_locate hl he]

structure SameFiles (s t : Store) : Prop extends Grows s t where
  files : ∀ p, t.file? p = s.file? p

lemma SameFiles.refl (s : Store) : SameFiles s s := ⟨.refl s, fun _ => rfl⟩

lemma SameFiles.trans (h : SameFiles s t) (h' : SameFiles t u) : SameFiles s u :=
  ⟨h.toGrows.trans h'.toGrows, fun p => (h'.files p).trans (h.files p)⟩

lemma sameFiles_put_directory (h : s.at? p = none) : SameFiles s (s.put p .directory) := by
  have hd : s.at? p ≠ some .directory := by simp [h]
  refine ⟨grows_put hd _, fun q => ?_⟩
  by_cases hq : q = p
  · rw [hq, file?, file?, at?_put_self hd, h]
    simp
  · exact file?_put_of_ne hq

lemma sameFiles_makeAlong (s : Store) (p : Place) (parts : List String) :
    SameFiles s (s.makeAlong p parts).1 := by
  induction parts generalizing s p with
  | nil => exact .refl s
  | cons part rest ih =>
    rw [makeAlong]
    split
    · exact .refl s
    · next q _ =>
      split
      · exact ih s q
      · exact .refl s
      · next hn => exact (sameFiles_put_directory hn).trans (ih _ q)

lemma sameFiles_makeDirectories (s : Store) (path : String) : SameFiles s (s.makeDirectories path).1 := by
  rw [makeDirectories]
  split
  · exact .refl s
  · exact sameFiles_makeAlong s _ _

lemma writeText_ok (h : s.writeText path content = .ok t) :
    ∃ p, s.locate path = .ok p ∧ s.at? p ≠ some .directory ∧ t = s.put p (.text content) := by
  rw [writeText] at h
  split at h
  · exfalso
    revert h
    split_ifs <;> simp
  · next p hp =>
    split at h
    · cases h
    · next hd => exact ⟨p, hp, hd, (Except.ok.inj h).symm⟩

def Rooted (s : Store) (p : Place) : Prop := ∀ q, q <+: p → q ≠ p → s.at? q = some .directory

lemma at?_of_prefix (h : p <+: s.workingDirectory) : s.at? p = some .directory := by
  rw [at?, if_pos (List.isPrefixOf_iff_prefix.mpr h)]

lemma rooted_start (s : Store) (path : String) : s.Rooted (s.start path) := by
  intro q hq hne
  rw [start] at hq hne
  split_ifs at hq hne
  · exact absurd (List.prefix_nil.mp hq) hne
  · exact at?_of_prefix hq

lemma Rooted.dropLast (h : s.Rooted p) : s.Rooted p.dropLast := by
  intro q hq hne
  refine h q (hq.trans (List.dropLast_prefix p)) ?_
  rintro rfl
  exact hne (hq.eq_of_length_le (by simp))

lemma Rooted.concat (hd : s.at? p = some .directory) (h : s.Rooted p) (part : String) :
    s.Rooted (p ++ [part]) := by
  intro q hq hne
  rw [List.prefix_concat_iff] at hq
  rcases hq with hq | hq
  · exact absurd hq hne
  · by_cases he : q = p
    · rw [he, hd]
    · exact h q hq he

lemma step_cases {part : String} (h : s.step p part = .ok q) :
    q = p ∨ q = p.dropLast ∨ q = p ++ [part] := by
  rw [step, step_ok h] at h
  dsimp only at h
  split_ifs at h
  · exact .inl (Except.ok.inj h).symm
  · exact .inr (.inl (Except.ok.inj h).symm)
  · exact .inr (.inr (Except.ok.inj h).symm)

lemma Rooted.step (h : s.Rooted p) {part : String} (hs : s.step p part = .ok q) : s.Rooted q := by
  rcases step_cases hs with rfl | rfl | rfl
  · exact h
  · exact h.dropLast
  · exact h.concat (step_ok hs) part

lemma Rooted.walk (h : s.Rooted p) {parts : List String} (hw : s.walk p parts = .ok q) :
    s.Rooted q := by
  induction parts generalizing p with
  | nil => exact Except.ok.inj hw ▸ h
  | cons part rest ih =>
    rw [Store.walk] at hw
    cases hs : s.step p part with
    | error e =>
      rw [hs] at hw
      cases hw
    | ok r =>
      rw [hs] at hw
      exact ih (h.step hs) hw

lemma walk_concat {parts : List String} {part : String} (h : s.walk p (parts ++ [part]) = .ok q) :
    ∃ r, s.walk p parts = .ok r ∧ s.step r part = .ok q := by
  induction parts generalizing p with
  | nil =>
    rw [List.nil_append, Store.walk] at h
    cases hs : s.step p part with
    | error e =>
      rw [hs] at h
      cases h
    | ok r =>
      rw [hs] at h
      exact ⟨p, rfl, by rw [hs]; exact h⟩
  | cons first rest ih =>
    rw [List.cons_append, Store.walk] at h
    rw [Store.walk]
    cases hs : s.step p first with
    | error e =>
      rw [hs] at h
      cases h
    | ok r =>
      rw [hs] at h
      exact ih h

lemma eq_concat_of_step {part : String} (h : s.Rooted p) (hs : s.step p part = .ok q)
    (hq : s.at? q ≠ some .directory) : q = p ++ [part] := by
  have hd := step_ok hs
  rcases step_cases hs with rfl | rfl | rfl
  · exact absurd hd hq
  · by_cases hp : p.dropLast = p
    · rw [hp] at hq
      exact absurd hd hq
    · exact absurd (h p.dropLast (List.dropLast_prefix p) hp) hq
  · rfl

lemma eq_concat_of_locate {parts : List String} {part : String} (hl : s.locate path = .ok p)
    (hp : s.at? p ≠ some .directory) (hs : pathParts path = parts ++ [part]) :
    ∃ r, s.walk (s.start path) parts = .ok r ∧ p = r ++ [part] := by
  rw [locate, hs] at hl
  split at hl
  · cases hl
  · obtain ⟨r, hw, hr⟩ := walk_concat hl
    exact ⟨r, hw, eq_concat_of_step ((rooted_start s path).walk hw) hr hp⟩

/-- Files whose paths differ only behind a dot in the last part are the same exactly if the paths are. -/
lemma sibling_eq_iff {base x y : String} (hx : '/' ∉ x.toList) (hy : '/' ∉ y.toList)
    (hp : s.locate (base ++ "." ++ x) = .ok p) (hq : s.locate (base ++ "." ++ y) = .ok q)
    (hdp : s.at? p ≠ some .directory) (hdq : s.at? q ≠ some .directory) : p = q ↔ x = y := by
  obtain ⟨init, last, hsplit⟩ := Text.exists_splitOn_append '/' base.toList
  have hparts : ∀ z : String, '/' ∉ z.toList → pathParts (base ++ "." ++ z) =
      init.map String.ofList ++ [String.ofList (last ++ '.' :: z.toList)] := by
    intro z hz
    have hd : '/' ∉ '.' :: z.toList := List.not_mem_cons_of_ne_of_not_mem (by decide) hz
    have he : (base ++ "." ++ z).toList = base.toList ++ '.' :: z.toList := by simp
    rw [pathParts, he, hsplit _ hd, List.map_append]
    rfl
  have hstart : ∀ z : String, s.start (base ++ "." ++ z) = s.start (base ++ ".") := by
    intro z
    have he : (base ++ "." ++ z).toList.head? = (base ++ ".").toList.head? := by
      cases hb : base.toList <;> simp [hb]
    rw [start, start, Path.isAbsolute, Path.isAbsolute, he]
  obtain ⟨r, hr, rfl⟩ := eq_concat_of_locate hp hdp (hparts x hx)
  obtain ⟨r', hr', rfl⟩ := eq_concat_of_locate hq hdq (hparts y hy)
  rw [hstart] at hr hr'
  obtain rfl : r = r' := Except.ok.inj (hr.symm.trans hr')
  simp

end Quadrature.Store
