import Quadrature.Proofs.Stores
import Quadrature.Proofs.TomlDocuments
import Quadrature.Settings

/-! Settings are loaded as they were saved, unless a number or a path of theirs has no place in a document. -/

namespace Quadrature.NativePath

def IsText (p : NativePath) : Prop := ∃ s : String, p = s

lemma text?_ofText (s : String) : (ofText s).text? = some s := by
  have hb : (⟨(ofText s).bytes.toArray⟩ : ByteArray) = s.toByteArray := by simp [ofText]
  show (if h : ByteArray.IsValidUTF8 _ then some (String.fromUTF8 _ h) else none) = some s
  rw [dif_pos (hb ▸ s.isValidUTF8)]
  exact congrArg some (String.toByteArray_inj.mp hb)

lemma eq_ofText_of_text? {p : NativePath} {s : String} (h : p.text? = some s) : p = ofText s := by
  have hd : (if h : ByteArray.IsValidUTF8 ⟨p.bytes.toArray⟩ then some (String.fromUTF8 _ h) else none) =
      some s := h
  split at hd
  · obtain rfl := Option.some.inj hd
    rfl
  · cases hd

lemma text?_eq_none_iff {p : NativePath} : p.text? = none ↔ ¬ p.IsText := by
  constructor
  · rintro h ⟨s, rfl⟩
    rw [text?_ofText] at h
    cases h
  · intro h
    cases hp : p.text? with
    | none => rfl
    | some s => exact absurd ⟨s, eq_ofText_of_text? hp⟩ h

end Quadrature.NativePath

namespace Quadrature.Settings

open Toml

structure Fits (s : Settings) : Prop where
  calls : s.generation.calls < 2 ^ 63
  sourceComponents : s.generation.sourceComponents < 2 ^ 63

lemma bare_of_all {k : String} (h : (k.toList ≠ [] && k.toList.all isBareChar) = true) : Bare k := by
  rw [Bool.and_eq_true, decide_eq_true_eq, List.all_eq_true] at h
  exact ⟨h.1, h.2⟩

def textAssignment (key value : String) (hk : Bare key) : Assignment :=
  ⟨key, written value, .text value, hk, denotes_written value⟩

def generationSection {s : Settings} (h : s.Fits) : Section where
  name := "generation"
  assignments := [
    textAssignment "backend" s.generation.backend.name (bare_of_all (by decide)),
    ⟨"n_calls", toString s.generation.calls, _, bare_of_all (by decide), denotes_toString h.calls⟩,
    ⟨"source_dependency_components", toString s.generation.sourceComponents, _, bare_of_all (by decide),
      denotes_toString h.sourceComponents⟩]
  bare := bare_of_all (by decide)
  nodup := by simp [textAssignment]

def templatesSection (directory : Option String) : Section where
  name := "templates"
  assignments := (directory.map fun d => textAssignment "template_dir" d (bare_of_all (by decide))).toList
  bare := bare_of_all (by decide)
  nodup := by cases directory <;> simp

def outputSection (s : Settings) : Section where
  name := "output"
  assignments := [
    textAssignment "header_extension" s.output.headerExtension (bare_of_all (by decide)),
    textAssignment "source_extension" s.output.sourceExtension (bare_of_all (by decide)),
    ⟨"include_banner", if s.output.includeBanner then "true" else "false", _, bare_of_all (by decide),
      denotes_flag s.output.includeBanner⟩]
  bare := bare_of_all (by decide)
  nodup := by simp [textAssignment]

def headerLine (name : String) : String := "[" ++ name ++ "]\n"

lemma toList_keyLine (a : Assignment) : (keyLine a.key a.text).toList = a.chars := by
  simp [keyLine, Assignment.chars]

lemma chars_eq_lines (t : Section) :
    t.chars = (headerLine t.name).toList ++ t.assignments.flatMap fun a => (keyLine a.key a.text).toList := by
  simp only [toList_keyLine]
  simp [Section.chars, headerLine]

lemma text_eq_documentText {s : Settings} (h : s.Fits) (directory : Option String) :
    s.text directory = documentText (generationSection h) [templatesSection directory, s.outputSection] := by
  have hg : "[generation]\n".toList = (headerLine "generation").toList := by decide
  have ht : "\n[templates]\n".toList = '\n' :: (headerLine "templates").toList := by decide
  have ho : "\n[output]\n".toList = '\n' :: (headerLine "output").toList := by decide
  unfold text
  rw [← String.toList_inj]
  cases directory <;>
    simp only [documentText, String.toList_append, String.toList_ofList, Section.spaced, chars_eq_lines,
      generationSection, templatesSection, outputSection, textAssignment, hg, ht, ho, Option.map_none,
      Option.map_some, Option.toList_none, Option.toList_some, List.flatMap_cons, List.flatMap_nil,
      List.append_assoc, List.cons_append, List.append_nil, String.toList_empty]

lemma ofName?_name (b : Backend) : Backend.ofName? b.name = some b := by
  cases b with
  | gsl a => cases a <;> decide
  | openCl => decide

lemma natural?_cast (n : Nat) : natural? (.integer n) = some n := by
  simp [natural?]

lemma generation?_section {s : Settings} (h : s.Fits) :
    generation? (some (generationSection h).member.2) = some s.generation := by
  have hb : ∀ d, read? ((generationSection h).assignments.map Assignment.member) "backend" backend? d =
      some s.generation.backend := fun _ => ofName?_name _
  have hn : ∀ d, read? ((generationSection h).assignments.map Assignment.member) "n_calls" natural? d =
      some s.generation.calls := fun _ => natural?_cast _
  have hs : ∀ d, read? ((generationSection h).assignments.map Assignment.member) "source_dependency_components"
      natural? d = some s.generation.sourceComponents := fun _ => natural?_cast _
  simp only [generation?, Section.member, section?, Option.bind_eq_bind, Option.bind_some, hb, hn, hs, Option.pure_def]

lemma templates?_section (directory : Option String) :
    templates? (some (templatesSection directory).member.2) = some (directory.map NativePath.ofText) := by
  cases directory <;>
    simp [templates?, section?, read?, templatesSection, textAssignment, Section.member, Assignment.member, text?]

lemma output?_section (s : Settings) : output? (some s.outputSection.member.2) = some s.output := by
  have hh : ∀ d, read? (s.outputSection.assignments.map Assignment.member) "header_extension" text? d =
      some s.output.headerExtension := fun _ => rfl
  have hs : ∀ d, read? (s.outputSection.assignments.map Assignment.member) "source_extension" text? d =
      some s.output.sourceExtension := fun _ => rfl
  have hb : ∀ d, read? (s.outputSection.assignments.map Assignment.member) "include_banner" flag? d =
      some s.output.includeBanner := fun _ => rfl
  simp only [output?, Section.member, section?, Option.bind_eq_bind, Option.bind_some, hh, hs, hb, Option.pure_def]

lemma ofMembers?_sections {s : Settings} (h : s.Fits) {directory : Option String}
    (hd : s.templateDirectory = directory.map NativePath.ofText) :
    ofMembers? ([generationSection h, templatesSection directory, s.outputSection].map Section.member) = some s := by
  have hg : ([generationSection h, templatesSection directory, s.outputSection].map Section.member).lookup
      "generation" = some (generationSection h).member.2 := rfl
  have ht : ([generationSection h, templatesSection directory, s.outputSection].map Section.member).lookup
      "templates" = some (templatesSection directory).member.2 := rfl
  have ho : ([generationSection h, templatesSection directory, s.outputSection].map Section.member).lookup
      "output" = some s.outputSection.member.2 := rfl
  rw [ofMembers?, hg, ht, ho, generation?_section, templates?_section, output?_section, ← hd]
  rfl

lemma read_text {s : Settings} (h : s.Fits) (hc : s.check = .ok ()) {directory : Option String}
    (hd : s.templateDirectory = directory.map NativePath.ofText) : read (s.text directory) = .ok s := by
  have hnames : ([generationSection h, templatesSection directory, s.outputSection].map Section.name).Nodup := by
    simp [generationSection, templatesSection, outputSection]
  rw [read, text_eq_documentText h, read?_documentText _ _ hnames, Option.bind_some, ofMembers?_sections h hd]
  simp only [hc]

lemma exists_directoryText {s : Settings} (h : ∀ d ∈ s.templateDirectory, d.IsText) :
    ∃ directory, s.directoryText? = some directory ∧ s.templateDirectory = directory.map NativePath.ofText := by
  rw [directoryText?]
  cases hs : s.templateDirectory with
  | none => exact ⟨none, rfl, rfl⟩
  | some d =>
    obtain ⟨t, rfl⟩ := h d hs
    exact ⟨some t, congrArg (Option.map some) (NativePath.text?_ofText t), rfl⟩

lemma fits_iff {s : Settings} :
    s.Fits ↔ ¬ (2 ^ 63 ≤ s.generation.calls || 2 ^ 63 ≤ s.generation.sourceComponents) = true := by
  rw [Bool.or_eq_true, decide_eq_true_eq, decide_eq_true_eq, not_or, Nat.not_le, Nat.not_le]
  exact ⟨fun h => ⟨h.calls, h.sourceComponents⟩, fun h => ⟨h.1, h.2⟩⟩

lemma save_of_fits {s : Settings} (h : s.Fits) {directory : Option String}
    (hd : s.directoryText? = some directory) (files : Store) (path : String) :
    s.save files path = Failure.ofIo (files.writeText path (s.text directory)) := by
  rw [save, if_neg (fits_iff.mp h), hd]

lemma save_of_not_fits {s : Settings} (h : ¬ s.Fits) (files : Store) (path : String) :
    s.save files path = .error .unwritableSettings := by
  rw [save, if_pos (not_not.mp (fits_iff.not.mp h))]

lemma save_of_not_isText {s : Settings} (h : s.Fits) {d : NativePath} (hd : s.templateDirectory = some d)
    (ht : ¬ d.IsText) (files : Store) (path : String) : s.save files path = .error .unwritableDirectory := by
  have hnone : s.directoryText? = none := by
    rw [directoryText?, hd]
    exact congrArg (Option.map some) (NativePath.text?_eq_none_iff.mpr ht)
  rw [save, if_neg (fits_iff.mp h), hnone]

/-- Settings that pass their check are loaded from where they were saved as they were, and no other file
has changed. Where a number of theirs is too large for a document, or their directory is no text, nothing
is saved. -/
theorem saved_settings_load (s : Settings) (files : Store) (path : String) :
    (s.check = .ok () → s.Fits → (∀ d ∈ s.templateDirectory, d.IsText) →
      ∀ p, files.locate path = .ok p → files.at? p ≠ some .directory →
        ∃ stored, s.save files path = .ok stored ∧ load stored path = .ok s ∧
          ∀ q, q ≠ p → stored.at? q = files.at? q) ∧
    (¬ s.Fits → s.save files path = .error .unwritableSettings) ∧
    (s.Fits → ∀ d ∈ s.templateDirectory, ¬ d.IsText → s.save files path = .error .unwritableDirectory) := by
  refine ⟨?_, fun h => save_of_not_fits h files path, fun h d hd ht => save_of_not_isText h hd ht files path⟩
  intro hc h hd p hp hn
  obtain ⟨directory, htext, hd⟩ := exists_directoryText hd
  have hwrite : files.writeText path (s.text directory) = .ok (files.put p (.text (s.text directory))) := by
    simp [Store.writeText, hp]
  refine ⟨files.put p (.text (s.text directory)), ?_, ?_, fun q hq => Store.at?_put_of_ne hq⟩
  · rw [save_of_fits h htext, hwrite]
    rfl
  · have hread : (files.put p (.text (s.text directory))).readText path = .ok (s.text directory) :=
      Store.readText_of_locate ((Store.grows_put hn _).locate hp) (Store.at?_put_self hn)
    rw [load, hread]
    exact read_text h hc hd

theorem saved_settings_load_with_quotes :
    let s : Settings := {
      generation := { backend := .gsl .vegas, calls := 2 ^ 63 - 1, sourceComponents := 7 }
      templateDirectory := some "a\\b '''\n\"\"\"\t\r\x7f ∑\n"
      output := { headerExtension := "h\"'x", sourceExtension := "\nc'''", includeBanner := false } }
    let files : Store := { entries := [(["etc"], .directory), (["etc", "f.toml"], .text "x"), (["g"], .text "y")] }
    ∃ stored, s.save files "etc/f.toml" = .ok stored ∧ load stored "etc/f.toml" = .ok s ∧
      stored.at? ["g"] = some (.text "y") ∧
      { s with generation.calls := 2 ^ 63 }.save files "etc/f.toml" = .error .unwritableSettings ∧
      { s with templateDirectory := some ⟨[0xff]⟩ }.save files "etc/f.toml" = .error .unwritableDirectory := by
  intro s files
  have hp : files.locate "etc/f.toml" = .ok ["etc", "f.toml"] := by decide +kernel
  have hc : s.check = .ok () := by
    rw [check, if_neg (by decide +kernel), if_neg (by decide +kernel), if_neg (by decide +kernel)]
  have hd : ∀ d ∈ s.templateDirectory, d.IsText := by
    intro d hd
    exact ⟨_, (Option.some.inj hd).symm⟩
  obtain ⟨stored, hsave, hload, hrest⟩ :=
    (saved_settings_load s files "etc/f.toml").1 hc ⟨by decide, by decide⟩ hd _ hp (by decide +kernel)
  refine ⟨stored, hsave, hload, ?_, ?_, ?_⟩
  · rw [hrest ["g"] (by decide)]
    decide +kernel
  · apply (saved_settings_load _ files "etc/f.toml").2.1
    exact fun h => absurd h.calls (by decide)
  · exact (saved_settings_load _ files "etc/f.toml").2.2 ⟨by decide, by decide⟩ _ rfl
      (NativePath.text?_eq_none_iff.mp (by decide))

theorem checked_settings_not_saved :
    let s : Settings := { templateDirectory := some ⟨[0xff]⟩ }
    s.check.isOk = true ∧ (s.save {} "f.toml").isOk = false ∧
      ({} : Settings).check.isOk = true ∧ (({} : Settings).save {} "missing/f.toml").isOk = false := by
  decide +kernel

end Quadrature.Settings
