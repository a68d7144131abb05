import Quadrature.Proofs.Masking
import Quadrature.Proofs.Recorded

/-! A signature, with a semicolon behind it, is read as a declaration with that signature. -/

namespace Quadrature.C

open Lexeme Scan

variable {xs : List (Extent × Specifier × Declarator)} {as : List Argument} {a : Argument}

lemma Guard.mask_of_line {s : String} (h : '\n' ∉ s.toList) : mask s = s := by
  by_cases hne : s.toList = []
  · rw [mask, hne, ← String.toList_inj, hne]
    rfl
  · have hkept : State.initial.mask s.toList = s.toList := by
      rw [State.mask, ite_eq_left_iff]
      exact fun _ => if_neg Bool.false_ne_true
    rw [mask, Text.lines_of_not_mem _ h hne, maskLines, maskLines, hkept, List.flatten_singleton,
      String.ofList_toList]

lemma plainTypes_isVoid : ∀ t ∈ plainTypes, t ≠ "void" →
    (((plainSpecifier t).type []).canonical.kind == .void) = false := by
  decide +kernel

lemma isVoid_of_entries (h : xs.map Prod.snd = as.map entry) (has : ∀ a ∈ as, Readable a)
    (hv : as ≠ [⟨"void", ""⟩]) : (Parameters.ofEntries xs).isVoid [] = false := by
  cases xs with
  | nil => rfl
  | cons x xs =>
    cases xs with
    | cons y xs =>
      obtain ⟨e, specifier, d⟩ := x
      cases d <;> rfl
    | nil =>
      obtain ⟨a, _, rfl, ha, hnil⟩ := List.map_eq_cons_iff.mp h.symm
      obtain rfl := List.map_eq_nil_iff.mp hnil
      obtain ⟨e, _⟩ := x
      obtain rfl := ha
      by_cases hn : a.name = ""
      · have ht : a.type ≠ "void" := by
          intro ht
          exact hv (by rw [← ht, ← hn])
        simp only [entry, if_pos hn]
        exact plainTypes_isVoid a.type (has a List.mem_cons_self).type ht
      · simp only [entry, if_neg hn]
        rfl

lemma arguments_of_entries (h : xs.map Prod.snd = as.map entry) (has : ∀ a ∈ as, Readable a) :
    (xs.map fun x => (⟨(declaredBy x.2).type.decayed.name, (declaredBy x.2).name⟩ : Argument)) = as := by
  have hentry : ∀ a ∈ as, argumentOf (entry a) = a := by
    intro a ha
    rw [argumentOf, declaredBy_entry, (plainTypes_name _ (has a ha).type).2]
  rw [arguments_of_snd h, List.map_map]
  exact (List.map_congr_left hentry).trans (List.map_id' as)

lemma newline_not_mem_written (h : Readable a) : '\n' ∉ a.written.toList := by
  have ht := (plainTypes_chars _ h.type).1
  rw [Argument.written]
  split_ifs with hn
  · exact ht
  · have hname := (h.name hn).1.newline_not_mem
    simp [ht, hname]

end Quadrature.C

namespace Quadrature

open C Lexeme Scan

/-- A declaration of plain types. The language has no use of its own for the names at their places, and the
arguments are not written as for a function without any. -/
structure FunctionDeclaration.Readable (d : FunctionDeclaration) : Prop where
  head : Declares ⟨d.returnType, d.name⟩
  call : d.name ∉ Word.callModifiers
  arguments : ∀ a ∈ d.arguments, Scan.Readable a
  void : d.arguments ≠ [⟨"void", ""⟩]

variable {d : FunctionDeclaration}

lemma FunctionDeclaration.Readable.newline_not_mem (h : d.Readable) : '\n' ∉ (d.signature ++ ";").toList := by
  have htype := (plainTypes_chars _ h.head.type).1
  have hname := h.head.name.newline_not_mem
  have hlist : '\n' ∉ d.parameterList.toList := by
    refine newline_not_mem_join fun x hx => ?_
    obtain ⟨a, ha, rfl⟩ := List.mem_map.mp hx
    exact newline_not_mem_written (h.arguments a ha)
  simp only at htype hname
  simp [FunctionDeclaration.signature, htype, hname, hlist]

lemma plainTypes_unmarked : ∀ t ∈ plainTypes, (t.toList.head?.any fun c => c.toNat ≠ 0xFEFF) = true := by
  decide +kernel

lemma FunctionDeclaration.Readable.head?_signature (h : d.Readable) :
    ∀ c ∈ (d.signature ++ ";").toList.head?, c.toNat ≠ 0xFEFF := by
  intro c hc
  have ht := plainTypes_unmarked _ h.head.type
  cases hcs : d.returnType.toList with
  | nil => simp [hcs] at ht
  | cons x cs =>
    obtain rfl : x = c := by simpa [FunctionDeclaration.signature, hcs] using hc
    simpa [hcs] using ht

lemma FunctionDeclaration.Readable.read_signature (h : d.Readable) :
    ∃ u xs e, SourceUnit.read (d.signature ++ ";") = .ok u ∧ xs.map Prod.snd = d.arguments.map entry ∧
      originsOf [] u.items = [(.prototype, prototypeNode d.returnType d.name xs e)] := by
  obtain ⟨params, htexts, hentries⟩ := exists_parameters h.arguments
  have hnil : ∀ c ∈ "".toList, isSpace c = true := isSpace_of_lead (by decide)
  have hend : ([] : List Char).head? ≠ some '=' := by simp
  obtain ⟨s, ts, n, r, q, rank, xs, hscan, hproto, hxs⟩ :=
    scans_signature (s := .initial .start) rfl h.head h.call hnil hend params
  rw [htexts] at hscan
  rw [hentries] at hxs
  have hsource : "".toList ++ (d.returnType ++ " " ++ d.name ++ "(" ++
      Text.join ", " (d.arguments.map Argument.written) ++ ")").toList ++ [';'] =
      (d.signature ++ ";").toList := by
    simp [FunctionDeclaration.signature, FunctionDeclaration.parameterList]
  rw [hsource] at hscan
  obtain ⟨extent, htext⟩ := text_of_scans hscan h.head?_signature
  obtain ⟨e, he⟩ := hproto.itemReading true
  have hitems := itemsReading_of_item (by simp) he
  refine ⟨⟨[.declaration ⟨e, plainSpecifier d.returnType, [.function (.ofEntries xs) (.name d.name)]⟩], extent⟩,
    xs, e, ?_, hxs, ?_⟩
  · rw [SourceUnit.read, htext]
    simp only [hitems]
    rfl
  · exact originsOf_prototype (isVoid_of_entries hxs h.arguments h.void) h.head.name_ne e

lemma FunctionDeclaration.Readable.declarations_signature (h : d.Readable) :
    ∃ root extent, readSource (d.signature ++ ";") = .ok root ∧ ∀ path, Extraction.declarations path root =
      .ok [{ name := d.name, returnType := d.returnType, arguments := d.arguments,
             source := some ⟨path, extent⟩ }] := by
  obtain ⟨u, xs, e, hu, hxs, horigins⟩ := h.read_signature
  refine ⟨u.outline, e, ?_, fun path => ?_⟩
  · rw [readSource, Guard.mask_of_line h.newline_not_mem, hu]
  · rw [declarations_prototype horigins h.head.type h.head.name_ne, prototypeRecord,
      arguments_of_entries hxs h.arguments]

/-- Reading a signature gives the declaration that it was written for, so no two have the same. -/
theorem signature_declares_itself (h : d.Readable) :
    (∃ root extent, readSource (d.signature ++ ";") = .ok root ∧
      ∀ path, Extraction.declarations path root =
        .ok [{ name := d.name, returnType := d.returnType, arguments := d.arguments,
               source := some ⟨path, extent⟩ }]) ∧
    ∀ d' : FunctionDeclaration, d'.Readable → d'.signature = d.signature →
      d'.name = d.name ∧ d'.returnType = d.returnType ∧ d'.arguments = d.arguments := by
  refine ⟨h.declarations_signature, fun d' h' hs => ?_⟩
  obtain ⟨root, extent, hroot, hread⟩ := h.declarations_signature
  obtain ⟨root', extent', hroot', hsame⟩ := h'.declarations_signature
  rw [hs, hroot] at hroot'
  obtain rfl := Except.ok.inj hroot'
  have heq := Except.ok.inj ((hsame "").symm.trans (hread ""))
  simp only [List.cons.injEq, FunctionDeclaration.mk.injEq] at heq
  exact ⟨heq.1.1, heq.1.2.1, heq.1.2.2.1⟩

theorem signature_declares_itself_of_plain_types :
    let d : FunctionDeclaration :=
      { name := "größe", returnType := "unsigned long",
        arguments := [⟨"wchar_t", ""⟩, ⟨"unsigned long long", "NULL"⟩, ⟨"void", ""⟩, ⟨"long double", "size_t"⟩] }
    d.signature = "unsigned long größe(wchar_t, unsigned long long NULL, void, long double size_t)" ∧
      d.Readable ∧
      (∃ root extent, readSource (d.signature ++ ";") = .ok root ∧
        ∀ path, Extraction.declarations path root =
          .ok [{ name := d.name, returnType := d.returnType, arguments := d.arguments,
                 source := some ⟨path, extent⟩ }]) ∧
      ∀ d' : FunctionDeclaration, d'.Readable → d'.signature = d.signature →
        d'.name = d.name ∧ d'.returnType = d.returnType ∧ d'.arguments = d.arguments := by
  intro d
  have hd : d.Readable := by
    refine ⟨⟨by decide, by decide +kernel, ⟨by decide, by decide, by decide⟩⟩, by decide, ?_, by decide⟩
    intro a ha
    have hall : ∀ a ∈ d.arguments, a.type ∈ plainTypes ∧
        (a.name ≠ "" → IsIdentifier a.name.toList ∧ a.name ∉ Word.modifiers ∧ a.name ∉ Word.sizes ∧
          (hasBase a.type = true ∨ a.name ∉ Word.primitives)) := by
      decide +kernel
    obtain ⟨ht, hn⟩ := hall a ha
    exact ⟨ht, fun hne => ⟨(hn hne).1, (hn hne).2.1, (hn hne).2.2.1, (hn hne).2.2.2⟩⟩
  exact ⟨by decide +kernel, hd, signature_declares_itself hd⟩

end Quadrature
