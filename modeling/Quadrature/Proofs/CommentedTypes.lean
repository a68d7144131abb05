import Quadrature.Proofs.WordKinds

/-! Comments in types. The kind of a type is computed from its text, and there the words of comments count as well,
and words with only a comment between them are no words. -/

namespace Quadrature.C

open Text Lexeme

namespace TypeText

variable {t : TypeText}

def name (t : TypeText) : String := (t.specifier.type []).name

lemma name_of_sized (h : t.isSized = true) : t.name = (sizedKind t.text).spelled := by
  rw [name, specifier, if_pos h]
  rfl

lemma decayed_specifier (t : TypeText) : (t.specifier.type []).decayed = t.specifier.type [] := by
  have hkinds : ∀ k ∈ SizeWords.kinds, k.isArray = false ∧ k.isFunction = false := by decide
  have hplain : (t.specifier.type []).isArray = false ∧ (t.specifier.type []).isFunction = false := by
    rw [specifier]
    split_ifs
    · exact hkinds _ (SizeWords.kind_mem _)
    · exact primitiveType_kind t.first
    · rw [Specifier.type]
      dsimp only [List.lookup]
      split_ifs
      · exact ⟨rfl, rfl⟩
      · exact unexplained_kind t.first
  obtain ⟨ha | hf, -⟩ | ⟨-, h⟩ := (t.specifier.type []).decayed_cases
  · exact absurd (ha.symm.trans hplain.1) (by decide)
  · exact absurd (hf.symm.trans hplain.2) (by decide)
  · exact h

def bare (t : TypeText) : TypeText where
  first := t.first
  more := t.more.map fun x => (" ", x.2)
  gaps x hx := by
    obtain ⟨y, -, rfl⟩ := List.mem_map.mp hx
    exact ⟨.blank Scan.isSpace_of_single, by simp⟩
  base := by
    rw [List.map_map]
    exact t.base
  single := by
    rw [List.map_map]
    exact t.single

@[simp] lemma words_bare (t : TypeText) : t.bare.words = t.words := by simp [words, bare]

@[simp] lemma isSized_bare (t : TypeText) : t.bare.isSized = t.isSized := by rw [isSized, words_bare, isSized]

def SetApart (t : TypeText) : Prop :=
  ∀ x ∈ t.more, (∀ c ∈ x.1.toList.head?, isBlank c = true) ∧ ∀ c ∈ x.1.toList.getLast?, isBlank c = true

lemma words_of_identifier {w : String} (h : IsIdentifier w.toList) : Text.words w = [w] := by
  have hw : ∀ c ∈ w.toList, isBlank c = false := fun c hc => by
    by_contra hb
    exact h.blank_not_mem (by simpa using hb) hc
  refine words_of_spaced ?_
  have hs := Spaced.word h.1 hw (by simp) (.nil (List.forall_mem_nil _))
  rwa [List.append_nil, String.ofList_toList] at hs

lemma words_join {xs : List (String × String)} {w : String} (hw : IsIdentifier w.toList)
    (hwords : ∀ x ∈ xs, IsIdentifier x.2.toList ∧ x.1.toList ≠ [])
    (hgaps : ∀ x ∈ xs, (∀ c ∈ x.1.toList.head?, isBlank c = true) ∧ ∀ c ∈ x.1.toList.getLast?, isBlank c = true) :
    Text.words (String.join (w :: xs.map fun x => x.1 ++ x.2)) =
      w :: xs.flatMap fun x => Text.words x.1 ++ [x.2] := by
  induction xs generalizing w with
  | nil => simpa [String.join_cons] using words_of_identifier hw
  | cons x xs ih =>
    obtain ⟨hx, hwords⟩ := List.forall_mem_cons.mp hwords
    obtain ⟨⟨hfirst, hlast⟩, hgaps⟩ := List.forall_mem_cons.mp hgaps
    have hmore := ih hx.1 hwords hgaps
    have hstart : ∀ c ∈ (x.1 ++ String.join (x.2 :: xs.map fun x => x.1 ++ x.2)).toList.head?,
        isBlank c = true := by
      rw [String.toList_append, List.head?_append_of_ne_nil _ hx.2]
      exact hfirst
    have he : String.join (w :: (x :: xs).map fun x => x.1 ++ x.2) =
        w ++ (x.1 ++ String.join (x.2 :: xs.map fun x => x.1 ++ x.2)) := by
      rw [String.join_cons, List.map_cons, String.join_cons, String.join_cons, String.append_assoc]
    rw [he, words_append_of_head hstart, words_append_of_last hlast, hmore, words_of_identifier hw,
      List.flatMap_cons]
    simp

lemma words_text (h : t.SetApart) :
    Text.words t.text = t.first :: t.more.flatMap fun x => Text.words x.1 ++ [x.2] := by
  have hwords : ∀ x ∈ t.more, IsIdentifier x.2.toList ∧ x.1.toList ≠ [] := fun x hx =>
    ⟨t.isIdentifier (List.mem_cons_of_mem _ (List.mem_map_of_mem hx)), (t.gaps x hx).2⟩
  exact words_join (t.isIdentifier List.mem_cons_self) hwords h

lemma words_text_bare (t : TypeText) : Text.words t.bare.text = t.words := by
  have hapart : t.bare.SetApart := by
    intro x hx
    obtain ⟨y, -, rfl⟩ := List.mem_map.mp hx
    have hblank : ∀ c ∈ " ".toList, isBlank c = true := forall_mem_of_all (by decide)
    exact ⟨fun c hc => hblank c (List.mem_of_mem_head? hc), fun c hc => hblank c (List.mem_of_getLast? hc)⟩
  have hblank : Text.words " " = [] := by decide +kernel
  have hmore : t.bare.more = t.more.map fun x => (" ", x.2) := rfl
  rw [words_text hapart, hmore, List.flatMap_map]
  simp only [hblank, List.nil_append]
  rw [← List.map_eq_flatMap, words]
  rfl

lemma sizedKind_eq_iff (t : TypeText) :
    sizedKind t.text = sizedKind t.bare.text ↔ SameKind t.words (Text.words t.text) := by
  rw [sizedKind, sizedKind, words_text_bare]
  exact SizeWords.kind_eq_iff t.words (Text.words t.text)

lemma name_eq_iff (h : t.isSized = true) : t.name = t.bare.name ↔ SameName t.words (Text.words t.text) := by
  have hbare : t.bare.isSized = true := t.isSized_bare.trans h
  rw [name_of_sized h, name_of_sized hbare, sizedKind, sizedKind, words_text_bare]
  exact SizeWords.spelled_eq_iff t.words (Text.words t.text)

end TypeText

lemma TypeText.name_of_unsized {t : TypeText} (h : t.isSized = false) : t.name = t.bare.name := by
  have hbare : t.bare.isSized = false := t.isSized_bare.trans h
  rw [name, name, specifier, specifier, h, hbare]
  rfl

namespace TypedName

def bare (a : TypedName) : TypedName where
  type := a.type.bare
  gap := " "
  name := a.name
  filler := ⟨.blank Scan.isSpace_of_single, by simp⟩
  isIdentifier := a.isIdentifier
  names := by
    have hbase : a.type.bare.hasBase = a.type.hasBase := by
      rw [TypeText.hasBase, TypeText.words_bare, TypeText.hasBase]
    exact ⟨a.names.modifiers, a.names.sizes, hbase ▸ a.names.primitives⟩

def argument (a : TypedName) : Argument := ⟨a.type.name, a.name⟩

lemma argumentOf_entry (a : TypedName) : argumentOf a.entry = a.argument := by
  have hdeclared : declaredBy a.entry = ⟨a.name, a.type.specifier.type [], []⟩ := rfl
  rw [argumentOf, hdeclared, a.type.decayed_specifier]
  rfl

def Unchanged (a : TypedName) : Prop := a.type.isSized = true → SameName a.type.words (Text.words a.type.text)

lemma name_eq_iff (a : TypedName) : a.type.name = a.bare.type.name ↔ a.Unchanged := by
  rw [Unchanged, bare]
  cases h : a.type.isSized with
  | false => simp [TypeText.name_of_unsized h]
  | true => simpa using TypeText.name_eq_iff h

lemma newline_not_mem_bare (a : TypedName) : '\n' ∉ a.bare.text.toList := by
  have hword : ∀ w ∈ a.type.words, '\n' ∉ w.toList := fun w hw => (a.type.isIdentifier hw).newline_not_mem
  have hmore : ∀ xs : List (String × String), (∀ x ∈ xs, '\n' ∉ x.2.toList) →
      '\n' ∉ (String.join ((xs.map fun x => (" ", x.2)).map fun x => x.1 ++ x.2)).toList := by
    intro xs h
    induction xs with
    | nil => decide
    | cons x xs ih =>
      obtain ⟨hx, hxs⟩ := List.forall_mem_cons.mp h
      simpa [String.join_cons, hx] using ih hxs
  have hfirst := hword a.type.first List.mem_cons_self
  have hrest := hmore a.type.more fun x hx => hword x.2 (List.mem_cons_of_mem _ (List.mem_map_of_mem hx))
  have hname := a.isIdentifier.newline_not_mem
  simp only [text, bare, TypeText.text, TypeText.bare, String.join_cons, String.toList_append, List.mem_append,
    not_or]
  exact ⟨⟨⟨hfirst, hrest⟩, by decide⟩, hname⟩

end TypedName

namespace Signature

variable (d : Signature)

def bare : Signature where
  head := d.head.bare
  parameters := d.parameters.map TypedName.bare
  call := d.call
  assembly := d.assembly
  first := d.first

def declaration (path : String) (e : Extent) : FunctionDeclaration :=
  { name := d.head.name, returnType := d.head.type.name, arguments := d.parameters.map TypedName.argument,
    source := some ⟨path, e⟩ }

lemma declarations_text {source : String} (hm : Guard.mask source = d.text) :
    ∃ root e, readSource source = .ok root ∧
      ∀ path, Extraction.declarations path root = .ok [d.declaration path e] := by
  obtain ⟨u, xs, e, hu, hxs, horigins⟩ := d.read_text
  have hname : d.head.name ≠ "" := by
    intro hn
    exact d.head.isIdentifier.1 (by simp [hn])
  have harguments : (xs.map fun x => (⟨(declaredBy x.2).type.decayed.name, (declaredBy x.2).name⟩ : Argument)) =
      d.parameters.map TypedName.argument := by
    rw [arguments_of_snd hxs, List.map_map]
    exact List.map_congr_left fun a _ => a.argumentOf_entry
  refine ⟨u.outline, e, by rw [readSource, hm, hu], fun path => ?_⟩
  rw [Extraction.declarations_eq, functions_of_origins horigins]
  simp [record_signature hname, harguments, declaration, TypeText.name]

lemma newline_not_mem_bare : '\n' ∉ d.bare.text.toList := by
  have hhead := d.head.newline_not_mem_bare
  have hlist : '\n' ∉ (Text.join ", " (d.parameters.map (TypedName.text ∘ TypedName.bare))).toList := by
    refine newline_not_mem_join fun x hx => ?_
    obtain ⟨a, -, rfl⟩ := List.mem_map.mp hx
    exact a.newline_not_mem_bare
  simp [text, bare, hhead, hlist]

lemma argumentTypes_eq_iff (path path' : String) (e e' : Extent) :
    (d.declaration path e).argumentTypes = (d.bare.declaration path' e').argumentTypes ↔
      ∀ a ∈ d.parameters, a.Unchanged := by
  simp only [FunctionDeclaration.argumentTypes, declaration, bare, List.map_map, List.map_inj_left]
  exact forall₂_congr fun a _ => a.name_eq_iff

end Signature

/-- A signature is read whatever comments stand between the words of its types, and so it is with blanks in their
place. The kind of a type stays the same exactly if the words of its whole text, those of the comments among them,
agree with its own words in the class of the base and in the sizes and signs that matter there. Exactly then, but
for the sign of `char`, the types recorded stay the same. -/
theorem comments_keep_types_iff (d : Signature) {source : String} (hm : Guard.mask source = d.text) :
    (∀ a ∈ d.head :: d.parameters,
      (sizedKind a.type.text = sizedKind a.type.bare.text ↔ SameKind a.type.words (Text.words a.type.text)) ∧
      (a.type.isSized = true → a.type.name = (sizedKind a.type.text).spelled) ∧
      (a.type.SetApart → Text.words a.type.text =
        a.type.first :: a.type.more.flatMap fun x => Text.words x.1 ++ [x.2])) ∧
    ∃ root bare e e', readSource source = .ok root ∧ readSource d.bare.text = .ok bare ∧ ∀ path,
      Extraction.declarations path root = .ok [d.declaration path e] ∧
      Extraction.declarations path bare = .ok [d.bare.declaration path e'] ∧
      ((d.declaration path e).returnType = (d.bare.declaration path e').returnType ↔ d.head.Unchanged) ∧
      ((d.declaration path e).argumentTypes = (d.bare.declaration path e').argumentTypes ↔
        ∀ a ∈ d.parameters, a.Unchanged) := by
  refine ⟨fun a _ => ⟨a.type.sizedKind_eq_iff, TypeText.name_of_sized, TypeText.words_text⟩, ?_⟩
  obtain ⟨root, e, hroot, hread⟩ := d.declarations_text hm
  obtain ⟨bare, e', hbare, hplain⟩ := d.bare.declarations_text (Guard.mask_of_line d.newline_not_mem_bare)
  exact ⟨root, bare, e, e', hroot, hbare, fun path =>
    ⟨hread path, hplain path, d.head.name_eq_iff, d.argumentTypes_eq_iff path path e e'⟩⟩

lemma filler_block {before body after : String} (hb : ∀ c ∈ before.toList, isSpace c = true)
    (hu : Unclosed body.toList) (ha : ∀ c ∈ after.toList, isSpace c = true) :
    Filler (before ++ "/*" ++ body ++ "*/" ++ after).toList := by
  have h := Filler.comment hb (Comment.block hu) (Filler.blank ha)
  simpa using h

lemma filler_line {before body after : String} (hb : ∀ c ∈ before.toList, isSpace c = true)
    (hl : lineComment 0 (body.toList ++ ['\n']) = body.toList.length) (ha : ∀ c ∈ after.toList, isSpace c = true) :
    Filler (before ++ "//" ++ body ++ "\n" ++ after).toList := by
  have hnewline : ∀ c ∈ ("\n" ++ after).toList, isSpace c = true := by
    intro c hc
    rw [String.toList_append] at hc
    rcases List.mem_append.mp hc with hc | hc
    · have hspace : ∀ c ∈ "\n".toList, isSpace c = true := Scan.isSpace_of_lead (by decide)
      exact hspace c hc
    · exact ha c hc
  have h := Filler.comment hb (Comment.line hl (by simp)) (Filler.blank hnewline)
  simpa using h

def TypedName.pair (u gap w name : String) (hg : Filler gap.toList ∧ gap.toList ≠ [])
    (hb : ∀ v ∈ bases [u, w], IsBase v) (hs : (bases [u, w]).length ≤ 1) (hi : IsIdentifier name.toList)
    (hn : name ∉ Word.modifiers ∧ name ∉ Word.sizes ∧ name ∉ Word.primitives) : TypedName where
  type := ⟨u, [(gap, w)], List.forall_mem_singleton.mpr hg, hb, hs⟩
  gap := " "
  name := name
  filler := ⟨.blank Scan.isSpace_of_single, by decide⟩
  isIdentifier := hi
  names := ⟨hn.1, hn.2.1, .inr hn.2.2⟩

/-- A comment with a size word, one behind the base, one that is all there is between two words, and one up to
the end of a line. -/
def commentedSignature : Signature where
  head := .pair "unsigned" (" " ++ "/*" ++ " long " ++ "*/" ++ " ") "int" "f"
    ⟨filler_block Scan.isSpace_of_single (by decide) Scan.isSpace_of_single, by decide +kernel⟩
    (by decide +kernel) (by decide) (by decide +kernel) (by decide)
  parameters :=
    [.pair "char" (" " ++ "/*" ++ " byte " ++ "*/" ++ " ") "unsigned" "x"
      ⟨filler_block Scan.isSpace_of_single (by decide) Scan.isSpace_of_single, by decide +kernel⟩
      (by decide +kernel) (by decide) (by decide +kernel) (by decide),
    .pair "long" ("" ++ "/*" ++ "" ++ "*/" ++ "") "int" "y"
      ⟨filler_block (Scan.isSpace_of_lead (by decide)) (by decide) (Scan.isSpace_of_lead (by decide)),
        by decide +kernel⟩
      (by decide +kernel) (by decide) (by decide +kernel) (by decide),
    .pair "long" (" " ++ "//" ++ " wide" ++ "\n" ++ " ") "double" "z"
      ⟨filler_line Scan.isSpace_of_single (by decide) Scan.isSpace_of_single, by decide +kernel⟩
      (by decide +kernel) (by decide) (by decide +kernel) (by decide)]
  call := by decide
  assembly := by decide
  first := by decide

theorem comments_keep_types_iff_of_four_comments :
    ∃ root bare e e',
      readSource ("unsigned /* long */ int f(char /* byte */ unsigned x, long/**/int y, " ++
        "long // wide\n double z);") = .ok root ∧
      readSource "unsigned int f(char unsigned x, long int y, long double z);" = .ok bare ∧
      ∀ path,
        Extraction.declarations path root =
          .ok [{ name := "f", returnType := "unsigned long",
                 arguments := [⟨"unsigned int", "x"⟩, ⟨"int", "y"⟩, ⟨"long double", "z"⟩],
                 source := some ⟨path, e⟩ }] ∧
        Extraction.declarations path bare =
          .ok [{ name := "f", returnType := "unsigned int",
                 arguments := [⟨"unsigned char", "x"⟩, ⟨"long", "y"⟩, ⟨"long double", "z"⟩],
                 source := some ⟨path, e'⟩ }] := by
  have hmask : Guard.mask ("unsigned /* long */ int f(char /* byte */ unsigned x, long/**/int y, " ++
      "long // wide\n double z);") = commentedSignature.text := by decide +kernel
  have hbare : commentedSignature.bare.text = "unsigned int f(char unsigned x, long int y, long double z);" := by
    decide +kernel
  have hrecorded : commentedSignature.head.type.name = "unsigned long" ∧
      commentedSignature.parameters.map TypedName.argument =
        [⟨"unsigned int", "x"⟩, ⟨"int", "y"⟩, ⟨"long double", "z"⟩] := by decide +kernel
  have hplain : commentedSignature.bare.head.type.name = "unsigned int" ∧
      commentedSignature.bare.parameters.map TypedName.argument =
        [⟨"unsigned char", "x"⟩, ⟨"long", "y"⟩, ⟨"long double", "z"⟩] := by decide +kernel
  obtain ⟨-, root, bare, e, e', hroot, hread, hall⟩ := comments_keep_types_iff commentedSignature hmask
  rw [hbare] at hread
  refine ⟨root, bare, e, e', hroot, hread, fun path => ?_⟩
  obtain ⟨h, h', -⟩ := hall path
  rw [h, h', Signature.declaration, Signature.declaration, hrecorded.1, hrecorded.2, hplain.1, hplain.2]
  exact ⟨rfl, rfl⟩

end Quadrature.C
