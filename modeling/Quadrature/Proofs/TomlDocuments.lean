import Mathlib.Data.List.Nodup
import Mathlib.Data.List.TakeDrop
import Quadrature.Proofs.TomlValues

/-! Documents of sections: what is read of them is what they were written from. -/

namespace Quadrature.Toml

variable {c : Char} {k : String} {v : Value} {cs r rest : List Char} {p q : Progress} {root ms : Members}

structure Bare (k : String) : Prop where
  nonempty : k.toList ≠ []
  chars : ∀ c ∈ k.toList, isBareChar c = true

structure Assignment where
  key : String
  text : String
  value : Value
  bare : Bare key
  denotes : Denotes text value

def Assignment.chars (a : Assignment) : List Char := a.key.toList ++ ' ' :: '=' :: ' ' :: (a.text.toList ++ ['\n'])

def Assignment.member (a : Assignment) : String × Value := (a.key, a.value)

structure Section where
  name : String
  assignments : List Assignment
  bare : Bare name
  nodup : (assignments.map Assignment.key).Nodup

def Section.chars (s : Section) : List Char :=
  '[' :: (s.name.toList ++ ']' :: '\n' :: s.assignments.flatMap Assignment.chars)

def Section.spaced (s : Section) : List Char := '\n' :: s.chars

def Section.member (s : Section) : String × Value := (s.name, .table .header (s.assignments.map Assignment.member))

lemma Bare.exists_cons (h : Bare k) : ∃ c t, k.toList = c :: t ∧ isBareChar c = true := by
  obtain ⟨c, t, heq⟩ := List.exists_cons_of_ne_nil h.nonempty
  exact ⟨c, t, heq, h.chars c (by simp [heq])⟩

lemma ne_of_isBareChar {d : Char} (hd : isBareChar d = true) (hc : isBareChar c = false) : d ≠ c := by
  rintro rfl
  simp [hc] at hd

lemma simpleKey?_bare (h : Bare k) (hc : isBareChar c = false) :
    simpleKey? (k.toList ++ c :: r) = some (k, c :: r) := by
  have hspan : (k.toList ++ c :: r).span isBareChar = (k.toList, c :: r) := by
    rw [List.span_eq_takeWhile_dropWhile, List.takeWhile_append_of_pos h.chars,
      List.dropWhile_append_of_pos h.chars]
    simp [hc]
  obtain ⟨d, t, heq, hd⟩ := h.exists_cons
  have hk : String.ofList (d :: t) = k := by rw [← heq, String.ofList_toList]
  rw [heq] at hspan ⊢
  rw [List.cons_append] at hspan ⊢
  rw [simpleKey?, hspan]
  · exact congrArg (fun s => some (s, c :: r)) hk
  · exact fun _ h => ne_of_isBareChar hd rfl (List.cons.inj h).1
  · exact fun _ h => ne_of_isBareChar hd rfl (List.cons.inj h).1

lemma key?_bare (h : Bare k) (hc : isBareChar c = false) (hr : (c :: r).dropWhile isSpace = rest)
    (hdot : rest.head? ≠ some '.') (fuel : Nat) :
    key? (fuel + 1) (k.toList ++ c :: r) = some ([k], rest) := by
  have hstart : (k.toList ++ c :: r).dropWhile isSpace = k.toList ++ c :: r := by
    obtain ⟨d, t, heq, hd⟩ := h.exists_cons
    have hspace : ¬ isSpace d = true := by
      simp [isSpace, ne_of_isBareChar hd (c := ' ') rfl, ne_of_isBareChar hd (c := '\t') rfl]
    rw [heq, List.cons_append, List.dropWhile_cons_of_neg hspace]
  rw [key?, hstart, simpleKey?_bare h hc]
  simp only [hr]
  split
  · simp at hdot
  · rfl

lemma lookup_absent (h : k ∉ ms.map Prod.fst) : ms.lookup k = none := by
  rw [List.lookup_eq_none_iff]
  intro m hm
  exact bne_iff_ne.mpr fun heq => h (List.mem_map.mpr ⟨m, hm, heq.symm⟩)

lemma lookup_last (h : k ∉ ms.map Prod.fst) : (ms ++ [(k, v)]).lookup k = some v := by
  simp [List.lookup_append, lookup_absent h]

lemma put_append (h : k ∉ ms.map Prod.fst) (t : Members) : Members.put k v (ms ++ t) = ms ++ Members.put k v t := by
  induction ms with
  | nil => rfl
  | cons m ms ih =>
    obtain ⟨j, w⟩ := m
    simp only [List.map_cons, List.mem_cons, not_or] at h
    rw [List.cons_append, Members.put, if_neg (Ne.symm h.1), ih h.2, List.cons_append]

lemma put_absent (h : k ∉ ms.map Prod.fst) : Members.put k v ms = ms ++ [(k, v)] := by
  have happend := put_append (v := v) h []
  rwa [List.append_nil] at happend

lemma put_last {w : Value} (h : k ∉ ms.map Prod.fst) :
    Members.put k v (ms ++ [(k, w)]) = ms ++ [(k, v)] := by
  rw [put_append h, Members.put, if_pos rfl]

lemma openTable_absent (h : k ∉ root.map Prod.fst) :
    openTable [k] root = some (root ++ [(k, .table .header [])]) := by
  rw [← put_absent h]
  simp [openTable, descend, lookup_absent h]

lemma assign_absent (h : k ∉ ms.map Prod.fst) : assign [k] v ms = some (ms ++ [(k, v)]) := by
  rw [← put_absent h]
  simp [assign, descend, lookup_absent h]

lemma within_last {name : String} {o : Origin} (hn : name ∉ root.map Prod.fst) (hk : k ∉ ms.map Prod.fst) :
    within (assign [k] v) [name] (root ++ [(name, .table o ms)]) =
      some (root ++ [(name, .table o (ms ++ [(k, v)]))]) := by
  simp [within, lookup_last hn, assign_absent hk, put_last hn]

lemma line?_header {s : Section} (h : s.name ∉ root.map Prod.fst) (path : List String) (r : List Char) :
    line? ⟨root, path⟩ ('[' :: (s.name.toList ++ ']' :: '\n' :: r)) =
      some (⟨root ++ [(s.name, .table .header [])], [s.name]⟩, r) := by
  have hblank : (']' :: '\n' :: r).dropWhile isSpace = ']' :: '\n' :: r := rfl
  have hkey := key?_bare s.bare rfl hblank (by simp)
  have hend : headerEnd? false (']' :: '\n' :: r) = some r := rfl
  rw [line?]
  · simp [hkey, hend, openTable_absent h]
  · intro t heq
    obtain ⟨d, u, hname, hd⟩ := s.bare.exists_cons
    rw [hname] at heq
    exact ne_of_isBareChar hd rfl (List.cons.inj heq).1

lemma Assignment.exists_cons (a : Assignment) (r : List Char) : ∃ c t, a.chars ++ r = c :: t ∧ isBareChar c = true := by
  obtain ⟨c, t, heq, hc⟩ := a.bare.exists_cons
  exact ⟨c, _, by rw [Assignment.chars, heq]; rfl, hc⟩

lemma line?_assignment (a : Assignment) (h : within (assign [a.key] a.value) p.path p.root = some root)
    (r : List Char) : line? p (a.chars ++ r) = some (⟨root, p.path⟩, r) := by
  have hblank : (' ' :: '=' :: ' ' :: (a.text.toList ++ '\n' :: r)).dropWhile isSpace =
      '=' :: ' ' :: (a.text.toList ++ '\n' :: r) := rfl
  have hkey : ∀ fuel, key? (fuel + 1) (a.chars ++ r) = some ([a.key], '=' :: ' ' :: (a.text.toList ++ '\n' :: r)) := by
    simpa [Assignment.chars] using key?_bare a.bare rfl hblank (by simp)
  have hvalue : ∀ fuel, value? (fuel + 1) ((' ' :: (a.text.toList ++ '\n' :: r)).dropWhile isSpace) =
      some (a.value, '\n' :: r) := fun fuel => a.denotes fuel r
  have hend : lineEnd? ('\n' :: r) = some r := rfl
  obtain ⟨c, t, heq, hc⟩ := a.exists_cons r
  rw [line?]
  · simp [hkey, hend, hvalue, after?, h]
  · exact fun _ h' => ne_of_isBareChar hc rfl (List.cons.inj (heq ▸ h')).1
  · exact fun _ h' => ne_of_isBareChar hc rfl (List.cons.inj (heq ▸ h')).1

def Reads (p : Progress) (cs : List Char) (q : Progress) (rest : List Char) : Prop :=
  ∀ fuel, cs.length < fuel → ∃ left, rest.length < left ∧ lines? fuel p cs = lines? left q rest

lemma Reads.refl (p : Progress) (cs : List Char) : Reads p cs p cs := fun fuel h => ⟨fuel, h, rfl⟩

lemma Reads.trans {p' : Progress} (h : Reads p cs q r) (h' : Reads q r p' rest) : Reads p cs p' rest := by
  intro fuel hf
  obtain ⟨left, hl, heq⟩ := h fuel hf
  obtain ⟨left', hl', heq'⟩ := h' left hl
  exact ⟨left', hl', heq.trans heq'⟩

lemma reads_newline (p : Progress) (cs : List Char) : Reads p ('\n' :: cs) p cs := by
  intro fuel hf
  refine ⟨fuel, Nat.lt_of_succ_lt hf, ?_⟩
  obtain ⟨fuel, rfl⟩ := Nat.exists_eq_succ_of_ne_zero (Nat.ne_zero_of_lt hf)
  -- an empty line is skipped together with what comes before the next line, so it takes no step of its own
  rfl

lemma skipAll_cons {fuel : Nat} (hc : isBareChar c = true ∨ c = '[') : skipAll (fuel + 1) (c :: r) = c :: r := by
  have hne : ∀ d, isBareChar d = false → d ≠ '[' → c ≠ d := by
    rintro d hd hopen rfl
    exact hc.elim (fun h => ne_of_isBareChar h hd rfl) hopen
  have hblank : ¬ isSpace c = true := by
    simp [isSpace, hne ' ' rfl, hne '\t' rfl]
  have htrivia : skipTrivia (c :: r) = c :: r := by
    rw [skipTrivia, List.dropWhile_cons_of_neg hblank]
    simp [hne '#' rfl]
  rw [skipAll, htrivia]
  simp [newline?, hne '\n' rfl, hne '\r' rfl]

lemma reads_line (hc : isBareChar c = true ∨ c = '[') (h : line? p (c :: r) = some (q, rest))
    (hlen : rest.length ≤ r.length) : Reads p (c :: r) q rest := by
  intro fuel hf
  obtain ⟨fuel, rfl⟩ := Nat.exists_eq_succ_of_ne_zero (Nat.ne_zero_of_lt hf)
  refine ⟨fuel, Nat.lt_of_le_of_lt hlen (Nat.lt_of_succ_lt_succ hf), ?_⟩
  rw [lines?, skipAll_cons hc]
  simp [h]

lemma reads_assignment (a : Assignment) {name : String} (hn : name ∉ root.map Prod.fst) (hk : a.key ∉ ms.map Prod.fst)
    (r : List Char) : Reads ⟨root ++ [(name, .table .header ms)], [name]⟩ (a.chars ++ r)
      ⟨root ++ [(name, .table .header (ms ++ [a.member]))], [name]⟩ r := by
  have hline := line?_assignment a (p := ⟨_, [name]⟩) (within_last (o := .header) hn hk) r
  obtain ⟨c, t, heq, hc⟩ := a.exists_cons r
  have hlen : r.length ≤ t.length := by
    have hchars := congrArg List.length heq
    simp [Assignment.chars] at hchars
    omega
  rw [heq] at hline ⊢
  exact reads_line (.inl hc) hline hlen

lemma reads_assignments {name : String} (hn : name ∉ root.map Prod.fst) (as : List Assignment)
    (hk : (ms.map Prod.fst ++ as.map Assignment.key).Nodup) (r : List Char) :
    Reads ⟨root ++ [(name, .table .header ms)], [name]⟩ (as.flatMap Assignment.chars ++ r)
      ⟨root ++ [(name, .table .header (ms ++ as.map Assignment.member))], [name]⟩ r := by
  induction as generalizing ms with
  | nil => simpa using Reads.refl _ r
  | cons a as ih =>
    have hkey : a.key ∉ ms.map Prod.fst := by
      intro hmem
      exact List.disjoint_of_nodup_append hk hmem List.mem_cons_self
    have hrest : ((ms ++ [a.member]).map Prod.fst ++ as.map Assignment.key).Nodup := by
      simpa [Assignment.member] using hk
    have hall := (reads_assignment a hn hkey (as.flatMap Assignment.chars ++ r)).trans (ih hrest)
    simpa using hall

lemma reads_section (s : Section) (h : s.name ∉ root.map Prod.fst) (path : List String) (r : List Char) :
    Reads ⟨root, path⟩ (s.chars ++ r) ⟨root ++ [s.member], [s.name]⟩ r := by
  have hheader := reads_line (.inr rfl) (line?_header h path (s.assignments.flatMap Assignment.chars ++ r))
    (by simp; omega)
  have hlines : Reads ⟨root ++ [(s.name, .table .header [])], [s.name]⟩ (s.assignments.flatMap Assignment.chars ++ r)
      ⟨root ++ [s.member], [s.name]⟩ r := reads_assignments h s.assignments (by simpa using s.nodup) r
  simpa [Section.chars] using hheader.trans hlines

lemma reads_sections (ss : List Section) (h : (root.map Prod.fst ++ ss.map Section.name).Nodup)
    (path : List String) :
    ∃ path', Reads ⟨root, path⟩ (ss.flatMap Section.spaced) ⟨root ++ ss.map Section.member, path'⟩ [] := by
  induction ss generalizing root path with
  | nil => exact ⟨path, by simpa using Reads.refl _ []⟩
  | cons s ss ih =>
    have hname : s.name ∉ root.map Prod.fst := by
      intro hmem
      exact List.disjoint_of_nodup_append h hmem List.mem_cons_self
    have hrest : ((root ++ [s.member]).map Prod.fst ++ ss.map Section.name).Nodup := by
      simpa [Section.member] using h
    obtain ⟨path', hss⟩ := ih hrest [s.name]
    have hall := ((reads_newline _ _).trans (reads_section s hname path _)).trans hss
    exact ⟨path', by simpa [Section.spaced] using hall⟩

lemma lines?_of_reads (h : Reads p cs q []) : lines? (cs.length + 1) p cs = some q.root := by
  obtain ⟨left, hleft, heq⟩ := h _ (Nat.lt_succ_self _)
  obtain ⟨left, rfl⟩ := Nat.exists_eq_succ_of_ne_zero (Nat.ne_zero_of_lt hleft)
  rw [heq]
  rfl

def documentText (s : Section) (ss : List Section) : String :=
  String.ofList (s.chars ++ ss.flatMap Section.spaced)

/-- What is read of a document are its sections, in order, each with its members in order. -/
theorem read?_documentText (s : Section) (ss : List Section) (h : ((s :: ss).map Section.name).Nodup) :
    read? (documentText s ss) = some ((s :: ss).map Section.member) := by
  have hs : Reads ⟨[], []⟩ (s.chars ++ ss.flatMap Section.spaced) ⟨[s.member], [s.name]⟩
      (ss.flatMap Section.spaced) := reads_section s List.not_mem_nil [] _
  have hnames : ([s.member].map Prod.fst ++ ss.map Section.name).Nodup := h
  obtain ⟨path, hss⟩ := reads_sections ss hnames [s.name]
  simpa [read?, documentText, Section.chars] using lines?_of_reads (hs.trans hss)

end Quadrature.Toml
