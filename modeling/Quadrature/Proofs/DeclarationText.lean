import Quadrature.Proofs.Extraction
import Quadrature.Proofs.Scanning
import Quadrature.Proofs.Slices

/-! The text of an extracted declaration, and whether it is that of a definition. -/

namespace Quadrature.C

inductive Origin where
  | definition | prototype
  deriving DecidableEq

def Origin.ending : Origin → Char
  | .definition => '}'
  | .prototype => ';'

mutual

def Item.origins (aliases : Aliases) : Item → List (Origin × Node)
  | .definition e s d old b locals =>
    ((Item.definition e s d old b locals).outline aliases).1.map (.definition, ·)
  | .declaration d => (d.functionNodes aliases).map (.prototype, ·)
  | .typeDefinition _ => []
  | .conditional _ items => originsOf aliases items
  | .linkage _ items => originsOf aliases items
  | .braces _ items => originsOf aliases items

def originsOf (aliases : Aliases) : List Item → List (Origin × Node)
  | [] => []
  | item :: rest => item.origins aliases ++ originsOf (item.outline aliases).2 rest

end

lemma Declared.functionNode_eq {d : Declared} {e : Extent} {body : List Node} {n : Node}
    (h : d.functionNode e body = some n) : n.kind = .function ∧ n.extent = e := by
  unfold Declared.functionNode at h
  split_ifs at h
  obtain rfl := Option.some.inj h
  exact ⟨rfl, rfl⟩

lemma Item.outline_definition {aliases : Aliases} {e b : Extent} {s : Specifier} {d : Declarator}
    {old locals : List Declaration} :
    ∀ n ∈ ((Item.definition e s d old b locals).outline aliases).1, n.kind = .function ∧ n.extent = e := by
  intro n hn
  rw [Item.outline] at hn
  exact Declared.functionNode_eq (Option.mem_toList.mp hn)

lemma Declaration.mem_functionNodes {aliases : Aliases} {d : Declaration} :
    ∀ n ∈ d.functionNodes aliases, n.kind = .function ∧ n.extent = d.extent := by
  intro n hn
  obtain ⟨declarator, _, hf⟩ := List.mem_filterMap.mp hn
  exact Declared.functionNode_eq hf

lemma functionsIn_of_functions {ns : List Node} (h : ∀ n ∈ ns, n.kind = .function) :
    functionsIn ns = ns := by
  induction ns with
  | nil => rfl
  | cons n ns ih =>
    rw [functionsIn, Node.functions_of_function (h n List.mem_cons_self),
      ih fun m hm => h m (List.mem_cons_of_mem n hm), List.singleton_append]

lemma functionsIn_aliasNodes (aliases : Aliases) (base : CType) (e : Extent) (ds : List Declarator) :
    functionsIn (aliasNodes aliases base e ds).1 = [] := by
  induction ds generalizing aliases with
  | nil => rfl
  | cons d ds ih =>
    rw [aliasNodes]
    dsimp only
    split_ifs
    · exact ih aliases
    · rw [functionsIn, Node.functions_of_ne (by simp), ih]
      rfl

mutual

lemma Item.map_origins (item : Item) (aliases : Aliases) :
    (item.origins aliases).map Prod.snd = functionsIn (item.outline aliases).1 := by
  cases item with
  | definition e s d old b locals =>
    rw [Item.origins, List.map_map, functionsIn_of_functions fun n hn => (Item.outline_definition n hn).1]
    exact List.map_id _
  | declaration d =>
    rw [Item.origins, List.map_map, Item.outline,
      functionsIn_of_functions fun n hn => (Declaration.mem_functionNodes n hn).1]
    exact List.map_id _
  | typeDefinition d => rw [Item.origins, Item.outline, functionsIn_aliasNodes, List.map_nil]
  | conditional e items | linkage e items | braces e items =>
    rw [Item.origins, map_originsOf items aliases, Item.outline, functionsIn,
      Node.functions_of_ne (by simp), functionsIn, List.append_nil]

lemma map_originsOf (items : List Item) (aliases : Aliases) :
    (originsOf aliases items).map Prod.snd = functionsIn (outlineItems aliases items).1 := by
  cases items with
  | nil => rw [originsOf, outlineItems]; rfl
  | cons item rest =>
    rw [originsOf, outlineItems, List.map_append, item.map_origins aliases, map_originsOf rest,
      functionsIn_append]

end

lemma mem_originsOf {aliases : Aliases} {items : List Item} {o : Origin × Node}
    (h : o ∈ originsOf aliases items) : ∃ i ∈ items, ∃ known, o ∈ i.origins known := by
  induction items generalizing aliases with
  | nil => rw [originsOf] at h; exact nomatch h
  | cons item rest ih =>
    rw [originsOf] at h
    rcases List.mem_append.mp h with h | h
    · exact ⟨item, List.mem_cons_self, aliases, h⟩
    · obtain ⟨i, hi, ho⟩ := ih h
      exact ⟨i, List.mem_cons_of_mem item hi, ho⟩

lemma Item.Sited.covers_origins {done : List Char} {item : Item} (h : item.Sited done) :
    ∀ aliases, ∀ o ∈ item.origins aliases, o.2.extent.Covers done o.1.ending := by
  -- items inside of others are reached through the aliases known at their place
  have hin : ∀ items : List Item, (∀ i ∈ items, ∀ aliases, ∀ o ∈ i.origins aliases,
      o.2.extent.Covers done o.1.ending) →
      ∀ aliases, ∀ o ∈ originsOf aliases items, o.2.extent.Covers done o.1.ending := by
    intro items ih aliases o ho
    obtain ⟨i, hi, known, ho⟩ := mem_originsOf ho
    exact ih i hi known o ho
  induction h with
  | definition hc =>
    intro aliases o ho
    rw [Item.origins] at ho
    obtain ⟨n, hn, rfl⟩ := List.mem_map.mp ho
    exact (Item.outline_definition n hn).2 ▸ hc
  | declaration hc =>
    intro aliases o ho
    rw [Item.origins] at ho
    obtain ⟨n, hn, rfl⟩ := List.mem_map.mp ho
    exact (Declaration.mem_functionNodes n hn).2 ▸ hc
  | typeDefinition =>
    intro aliases o ho
    rw [Item.origins] at ho
    exact nomatch ho
  | conditional _ ih | linkage _ ih | braces _ ih => simpa only [Item.origins] using hin _ ih

lemma covers_originsOf {content : String} {u : SourceUnit}
    (h : SourceUnit.read (Guard.mask content) = .ok u) :
    ∀ o ∈ originsOf [] u.items, o.2.extent.Covers content.toList o.1.ending := by
  intro o ho
  obtain ⟨i, hi, known, ho⟩ := mem_originsOf ho
  have hc := (SourceUnit.sited_of_read h i hi).covers_origins known o ho
  refine (Guard.blanked_mask content).covers hc ?_
  cases o.1 <;> rfl

end Quadrature.C

namespace Quadrature

open C

lemma Extraction.source_of_record {path : String} {n : Node} {d : FunctionDeclaration}
    (h : record path n = .ok d) : d.source = some ⟨path, n.extent⟩ ∧ d.remembered = none := by
  obtain ⟨-, rfl⟩ := record_ok h
  exact ⟨rfl, rfl⟩

lemma FunctionDeclaration.hasBody_eq {d : FunctionDeclaration} {files : Store} {t : String}
    {o : Origin} (ht : d.text? files = some t) (hl : (Text.trim t).toList.getLast? = some o.ending) :
    d.hasBody files = true ↔ o = .definition := by
  have hne : t ≠ "" := by
    rintro rfl
    exact nomatch hl
  rw [hasBody, ht]
  simp only [isPrototypeText, hl]
  cases o <;> simp [hne, Origin.ending]

/-- A declaration as it was recorded for a function of an outline, its text in the file, and whether
this is the text of a definition. -/
structure RecordedText (files : Store) (path content : String) (o : Origin × Node)
    (d : FunctionDeclaration) : Prop where
  recorded : Extraction.record path o.2 = .ok d
  text : ∃ t a b rest, d.text? files = some t ∧ content.toList = a ++ (b ++ rest) ∧
    d.extent? = some (.between (Position.start.after a) (Position.start.after (a ++ b))) ∧ b <:+ t.toList
  body : d.hasBody files = true ↔ o.1 = .definition

lemma recordedText_of_covers {files : Store} {path content : String} {o : Origin × Node}
    {d : FunctionDeclaration} (hf : files.readText path = .ok content)
    (hr : Extraction.record path o.2 = .ok d) (hc : o.2.extent.Covers content.toList o.1.ending) :
    RecordedText files path content o d := by
  obtain ⟨hs, hm⟩ := Extraction.source_of_record hr
  have hz : Text.isBlank o.1.ending = false := by cases o.1 <;> rfl
  obtain ⟨a, b, rest, x, ha, he, ht, hl⟩ := hc.slice hz
  have htext : d.text? files = some (o.2.extent.slice content) := by
    simp only [FunctionDeclaration.text?, hm, hs, hf]
  refine ⟨hr, ⟨_, a, b, rest, htext, ha, ?_, ?_⟩, FunctionDeclaration.hasBody_eq htext hl⟩
  · rw [FunctionDeclaration.extent?, hs, ← he]
    rfl
  · rw [ht]
    exact List.suffix_append x b

lemma recorded_of_load {files : Store} {path : String} {s : SourceFile}
    (h : SourceFile.load files path = .ok s) :
    ∃ content u, files.readText path = .ok content ∧ SourceUnit.read (Guard.mask content) = .ok u ∧
      (originsOf [] u.items).map Prod.snd = u.outline.functions ∧
      List.Forall₂ (fun o d => Extraction.record path o.2 = .ok d) (originsOf [] u.items) s.declarations := by
  obtain ⟨content, hf⟩ := SourceFile.readText_of_load h
  rw [SourceFile.load_eq hf, readSource] at h
  cases hu : SourceUnit.read (Guard.mask content) with
  | error p => rw [hu] at h; exact nomatch h
  | ok u =>
    rw [hu] at h
    have hfun : (originsOf [] u.items).map Prod.snd = u.outline.functions := by
      rw [map_originsOf, Node.functions_of_ne (by simp [SourceUnit.outline]), SourceUnit.outline]
    cases hd : Extraction.declarations path u.outline with
    | error f => simp only [hd] at h; exact nomatch h
    | ok ds =>
      simp only [hd] at h
      obtain rfl := Except.ok.inj h
      rw [Extraction.declarations_eq, ← hfun] at hd
      exact ⟨content, u, hf, hu, hfun, List.forall₂_map_left_iff.mp (Extraction.forall₂_of_mapM hd)⟩

theorem declarations_keep_their_text {files : Store} {path : String} {s : SourceFile}
    (h : SourceFile.load files path = .ok s) :
    ∃ content u, files.readText path = .ok content ∧ SourceUnit.read (Guard.mask content) = .ok u ∧
      (originsOf [] u.items).map Prod.snd = u.outline.functions ∧
      List.Forall₂ (RecordedText files path content) (originsOf [] u.items) s.declarations := by
  obtain ⟨content, u, hf, hu, hfun, hrec⟩ := recorded_of_load h
  refine ⟨content, u, hf, hu, hfun, ?_⟩
  exact ((List.forall₂_and_left _ _).mpr ⟨covers_originsOf hu, hrec⟩).imp
    fun o d ho => recordedText_of_covers hf ho.2 ho.1

theorem declarations_keep_their_text_around_guards :
    let files : Store :=
      { entries := [(["a.h"], .text "int é(int);int g()\r\n\x7b\n#ifdef __cplusplus\n\x7dé\n#endif\n\x7d")] }
    ∃ s, SourceFile.load files "a.h" = .ok s ∧ s.declarations.map (·.hasBody files) = [false, true] ∧
      ∃ content u, files.readText "a.h" = .ok content ∧ SourceUnit.read (Guard.mask content) = .ok u ∧
        (originsOf [] u.items).map Prod.snd = u.outline.functions ∧
        List.Forall₂ (RecordedText files "a.h" content) (originsOf [] u.items) s.declarations := by
  intro files
  have hs : (SourceFile.load files "a.h").toOption.any
      (fun s => s.declarations.map (·.hasBody files) = [false, true]) = true := by
    decide +kernel
  cases hl : SourceFile.load files "a.h" with
  | error f => rw [hl] at hs; exact nomatch hs
  | ok s =>
    rw [hl] at hs
    exact ⟨s, rfl, of_decide_eq_true hs, declarations_keep_their_text hl⟩

end Quadrature
