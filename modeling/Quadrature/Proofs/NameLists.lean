import Quadrature.Proofs.BuiltPieces
import Quadrature.Proofs.Derivations
import Quadrature.Proofs.Scanning

/-! A definition is read with a list of names only where nothing but the list stands on its name: with a pointer
in front of it, the list is read as one of types. -/

namespace Quadrature.C

variable {p : Piece} {ps : List Piece} {d e : Declarator} {qs : Parameters}

def Declarator.Typed (d : Declarator) : Prop :=
  ∀ qs rest, d.derivations = .function qs :: rest → qs.isOldStyle = false

lemma Declarator.typed_of_nil (h : d.derivations = []) : d.Typed := by
  intro qs rest hd
  rw [h] at hd
  cases hd

lemma Declarator.Typed.concat {x : Derivation} (h : d.Typed) (he : e.derivations = d.derivations ++ [x])
    (hx : ∀ qs, x = .function qs → qs.isOldStyle = false) : e.Typed := by
  intro qs rest hqs
  rw [he] at hqs
  cases hds : d.derivations with
  | nil =>
    rw [hds] at hqs
    exact hx qs (List.cons.inj hqs).1
  | cons y ys =>
    rw [hds] at hqs
    exact h qs ys (hds.trans (by rw [(List.cons.inj hqs).1]))

lemma Declarator.Typed.pointer (h : d.Typed) : (Declarator.pointer d).Typed :=
  h.concat rfl (by simp)

lemma Declarator.Typed.array (h : d.Typed) (sized : Bool) : (Declarator.array sized d).Typed :=
  h.concat rfl (by simp)

lemma Declarator.Typed.function (h : d.Typed) (hq : qs.isOldStyle = false) :
    (Declarator.function qs d).Typed :=
  h.concat rfl (by simpa using hq)

lemma Declarator.Typed.parens (h : d.Typed) : (Declarator.parens d).Typed := h

lemma Declarator.typed_nameDeclarator (defining : Bool) (w : String) : (nameDeclarator defining w).Typed := by
  apply Declarator.typed_of_nil
  rw [nameDeclarator]
  split_ifs <;> rfl

structure Piece.ReadsTypes (p : Piece) : Prop where
  parameters : ∀ r qs, p.token = .round r → r.parameters = some qs → qs.value.isOldStyle = false
  declarator : ∀ r d, p.token = .round r → r.declarator = some d → d.value.Typed
  typeDeclarator : ∀ r d, p.token = .round r → r.typeDeclarator = some d → d.value.Typed

def ReadTypes (ps : List Piece) : Prop := ∀ p ∈ ps, p.ReadsTypes

@[grind =]
lemma readTypes_cons : ReadTypes (p :: ps) ↔ p.ReadsTypes ∧ ReadTypes ps :=
  List.forall_mem_cons

lemma suffixes_typed {defining : Bool} {rank : Int} {tail : Tail} {trailing : Bool} {r : Ranked DeclaratorReach}
    (hps : ReadTypes ps) (hd : d.Typed) (h : suffixes defining d rank tail trailing ps = some r) :
    r.value.declarator.Typed := by
  have hhidden : Declarator.hidden.Typed := Declarator.typed_of_nil rfl
  fun_induction suffixes defining d rank tail trailing ps <;>
    grind [Declarator.Typed.function, Declarator.Typed.array, Piece.ReadsTypes.parameters]

lemma declaratorReading_typed {defining pointed : Bool} {reserved : List String} {r : Ranked DeclaratorReach}
    (hps : ReadTypes ps) (h : declaratorReading defining reserved pointed ps = some r) :
    r.value.declarator.Typed := by
  fun_induction declaratorReading defining reserved pointed ps generalizing r <;>
    grind [Option.map_eq_some_iff, suffixes_typed, Declarator.Typed.pointer, Declarator.Typed.parens,
      Declarator.typed_nameDeclarator, Piece.ReadsTypes.declarator, Piece.ReadsTypes.typeDeclarator]

lemma isOldStyle_parameterEntries {pss : List (List Piece)} {r : Ranked Parameters}
    (h : parameterEntries pss = some r) : r.value.isOldStyle = false := by
  induction pss generalizing r with
  | nil => exact Option.some.inj h ▸ rfl
  | cons ps pss ih =>
    rw [parameterEntries] at h
    split at h
    · cases h
    · next tail ht =>
      have htail := ih ht
      split_ifs at h
      · exact Option.some.inj h ▸ htail
      · obtain ⟨s, -, rfl⟩ := Option.map_eq_some_iff.mp h
        exact htail

lemma isOldStyle_parameterList {r : Ranked Parameters} (h : parameterList ps = some r) :
    r.value.isOldStyle = false := by
  unfold parameterList at h
  split at h
  · exact Option.some.inj h ▸ rfl
  · exact isOldStyle_parameterEntries h

lemma enclosedDeclarator_typed {defining : Bool} {r : Ranked Declarator} (hps : ReadTypes ps)
    (h : enclosedDeclarator defining ps = some r) : r.value.Typed := by
  cases ps with
  | nil => cases h
  | cons p ps =>
    unfold enclosedDeclarator at h
    dsimp only at h
    split at h
    · next rank d trailing hd =>
      obtain rfl := Option.some.inj h
      split_ifs with hm
      · exact Declarator.typed_of_nil rfl
      · rw [if_neg hm] at hd
        exact declaratorReading_typed hps hd
    · cases h

lemma readsTypes_of_not_round (h : ∀ r, p.token ≠ .round r) : p.ReadsTypes :=
  ⟨fun r _ hr => absurd hr (h r), fun r _ hr => absurd hr (h r), fun r _ hr => absurd hr (h r)⟩

lemma Piece.Built.readsTypes (h : p.Built) : p.ReadsTypes := by
  induction h with
  | round _ hp ih =>
    constructor
    · intro r qs hr hqs
      obtain rfl := Token.round.inj (hp.symm.trans hr)
      exact isOldStyle_parameterList hqs
    · intro r d hr hd
      obtain rfl := Token.round.inj (hp.symm.trans hr)
      exact enclosedDeclarator_typed ih hd
    · intro r d hr hd
      obtain rfl := Token.round.inj (hp.symm.trans hr)
      exact enclosedDeclarator_typed ih hd
  | lexeme hp => exact readsTypes_of_not_round (by simp [hp])
  | directive hp => exact readsTypes_of_not_round (by simp [hp])
  | square _ hp => exact readsTypes_of_not_round (by simp [hp])
  | curly _ hp => exact readsTypes_of_not_round (by simp [hp])
  | branch _ hp => exact readsTypes_of_not_round (by simp [hp])

/-! ## Definitions -/

/-- A list of names, if one stands nearest to the name, is all that stands on it. -/
def Declarator.NamesAlone (d : Declarator) : Prop :=
  ∀ qs rest, d.derivations = .function qs :: rest → qs.isOldStyle = true → rest = []

lemma Declarator.Typed.namesAlone (h : d.Typed) : d.NamesAlone := by
  intro qs rest hd hold
  rw [h qs rest hd] at hold
  cases hold

lemma Declarator.Typed.namesAlone_function (h : d.Typed) (qs : Parameters) :
    (Declarator.function qs d).NamesAlone := by
  intro qs' rest hqs hold
  rw [Declarator.derivations] at hqs
  cases hds : d.derivations with
  | nil =>
    rw [hds] at hqs
    exact (List.cons.inj hqs).2.symm
  | cons y ys =>
    rw [hds] at hqs
    have hy : y = .function qs' := (List.cons.inj hqs).1
    rw [h qs' ys (hy ▸ hds)] at hold
    cases hold

lemma declarator_of_bodyReading {old : List Declaration} {reach : DefinitionReach}
    (h : bodyReading d old ps = some reach) : reach.declarator = d := by
  cases ps with
  | nil => cases h
  | cons p rest =>
    rw [bodyReading] at h
    split at h
    · exact Option.some.inj h ▸ rfl
    · cases h

lemma oldStyleSuffixes_namesAlone {rank : Int} {r : Ranked DefinitionReach} (hps : ReadTypes ps) (hd : d.Typed)
    (h : oldStyleSuffixes d rank ps = some r) : r.value.declarator.NamesAlone := by
  induction ps generalizing d rank with
  | nil => cases h
  | cons p rest ih =>
    obtain ⟨hp, hrest⟩ := readTypes_cons.mp hps
    rw [oldStyleSuffixes] at h
    split at h
    · next round hround =>
      simp only at h
      split at h
      · next reach _ hb =>
        obtain rfl := Option.some.inj h
        obtain ⟨names, -, hb⟩ := Option.bind_eq_some_iff.mp hb
        rw [declarator_of_bodyReading hb]
        exact hd.namesAlone_function names
      · next qs _ hqs => exact ih hrest (hd.function (hp.parameters round qs hround hqs)) h
      · cases h
    · split_ifs at h
      · exact ih hrest (Declarator.typed_of_nil rfl) h
      · split at h
        · exact ih hrest (hd.array _) h
        · cases h
    · cases h

lemma oldStyleReading_namesAlone {r : Ranked DefinitionReach} (hps : ReadTypes ps)
    (h : oldStyleReading ps = some r) : r.value.declarator.NamesAlone := by
  cases ps with
  | nil => cases h
  | cons p rest =>
    obtain ⟨hp, hrest⟩ := readTypes_cons.mp hps
    rw [oldStyleReading] at h
    split at h
    · split_ifs at h
      exact oldStyleSuffixes_namesAlone hrest (Declarator.typed_of_nil rfl) h
    · next round hround =>
      split at h
      · next d hd => exact oldStyleSuffixes_namesAlone hrest (hp.declarator round d hround hd).parens h
      · cases h
    · cases h

lemma ReadTypes.suffix {qs : List Piece} (h : ReadTypes ps) (hs : qs <:+ ps) : ReadTypes qs :=
  fun p hp => h p (hs.mem hp)

lemma prototypedReading_namesAlone {r : Ranked DefinitionReach} (hps : ReadTypes ps)
    (h : prototypedReading ps = some r) : r.value.declarator.NamesAlone := by
  unfold prototypedReading at h
  split at h
  · next s hs =>
    obtain ⟨reach, hb, rfl⟩ := Option.map_eq_some_iff.mp h
    rw [declarator_of_bodyReading hb]
    exact (declaratorReading_typed (hps.suffix (dropCallModifier_suffix ps)) hs).namesAlone
  · cases h

/-! ## Items -/

inductive Item.NamesAlone : Item → Prop
  | definition {e : Extent} {s : Specifier} {d : Declarator} {old locals : List Declaration} {body : Extent} :
      d.NamesAlone → NamesAlone (.definition e s d old body locals)
  | declaration {d : Declaration} : NamesAlone (.declaration d)
  | typeDefinition {d : Declaration} : NamesAlone (.typeDefinition d)
  | conditional {e : Extent} {items : List Item} : (∀ i ∈ items, NamesAlone i) → NamesAlone (.conditional e items)
  | linkage {e : Extent} {items : List Item} : (∀ i ∈ items, NamesAlone i) → NamesAlone (.linkage e items)
  | braces {e : Extent} {items : List Item} : (∀ i ∈ items, NamesAlone i) → NamesAlone (.braces e items)

structure Plain (ps : List Piece) : Prop where
  types : ReadTypes ps
  items : ∀ p ∈ ps, ∀ items, p.token.items? = some items → ∀ i ∈ items, i.NamesAlone

lemma Plain.suffix {qs : List Piece} (h : Plain ps) (hs : qs <:+ ps) : Plain qs :=
  ⟨h.types.suffix hs, fun p hp => h.items p (hs.mem hp)⟩

lemma declaredReading_namesAlone {old : Bool} {r : Ranked (Item × List Piece)} (hps : ReadTypes ps)
    (h : declaredReading old ps = some r) : r.value.1.NamesAlone := by
  cases ps with
  | nil => cases h
  | cons p ps =>
    rcases List.mem_append.mp (Ranked.mem_of_best h) with hd | hd
    · obtain ⟨s, hs, hr⟩ := List.mem_flatMap.mp hd
      obtain ⟨t, ht, rfl⟩ := List.mem_map.mp hr
      have hs : ReadTypes s.value.2 :=
        hps.suffix ((specifierReadings_suffix hs).trans (dropCallModifier_suffix (p :: ps)))
      apply Item.NamesAlone.definition
      rcases List.mem_append.mp ht with hold | hnew
      · cases old with
        | true => exact oldStyleReading_namesAlone hs (Option.mem_toList.mp hold)
        | false => cases hold
      · exact prototypedReading_namesAlone hs (Option.mem_toList.mp hnew)
    · obtain ⟨s, -, rfl⟩ := List.mem_map.mp hd
      exact .declaration

lemma namesAlone_of_statement {o : Option (List Piece)} {r : ItemReach}
    (h : o.map (fun rest => (([] : List Item), rest)) = some r) : ∀ i ∈ r.1, i.NamesAlone := by
  obtain ⟨rest, -, rfl⟩ := Option.map_eq_some_iff.mp h
  exact fun i hi => absurd hi List.not_mem_nil

lemma namesAlone_of_preferred {o : Option (List Piece)} {r : ItemReach} (hps : ReadTypes ps)
    (h : preferred ((declaredReading true ps).map fun r => ⟨r.rank, ([r.value.1], r.value.2)⟩)
      (o.map fun rest => (([] : List Item), rest)) = some r) : ∀ i ∈ r.1, i.NamesAlone := by
  rcases preferred_cases h with ⟨d, hd, rfl⟩ | h
  · obtain ⟨e, he, rfl⟩ := Option.map_eq_some_iff.mp hd
    exact List.forall_mem_singleton.mpr (declaredReading_namesAlone hps he)
  · exact namesAlone_of_statement h

lemma namesAlone_of_typeDefinition {start : Extent} {r : ItemReach}
    (h : (typeDefinitionReading start ps).map
      (fun r => ([Item.typeDefinition r.value.1], r.value.2)) = some r) : ∀ i ∈ r.1, i.NamesAlone := by
  obtain ⟨d, -, rfl⟩ := Option.map_eq_some_iff.mp h
  exact List.forall_mem_singleton.mpr .typeDefinition

lemma linkageReading_namesAlone {start : Extent} {r : ItemReach} (hps : Plain ps)
    (h : linkageReading start ps = some r) : ∀ i ∈ r.1, i.NamesAlone := by
  cases ps with
  | nil => cases h
  | cons p rest =>
    rw [linkageReading] at h
    split at h
    · next items hi =>
      obtain rfl := Option.some.inj h
      obtain ⟨c, hc, hi⟩ := Option.bind_eq_some_iff.mp hi
      have hitems := hps.items p List.mem_cons_self items ((Token.items?_of_curly? hc).trans hi)
      exact List.forall_mem_singleton.mpr (.linkage (List.forall_mem_singleton.mpr (.braces hitems)))
    · obtain ⟨d, hd, rfl⟩ := Option.map_eq_some_iff.mp h
      exact List.forall_mem_singleton.mpr
        (.linkage (List.forall_mem_singleton.mpr (declaredReading_namesAlone hps.types hd)))

lemma itemReading_namesAlone {top : Bool} {r : ItemReach} (hps : Plain ps) (h : itemReading top ps = some r) :
    ∀ i ∈ r.1, i.NamesAlone := by
  cases ps with
  | nil => cases h
  | cons p rest =>
    unfold itemReading at h
    dsimp only at h
    split at h
    · exact Option.some.inj h ▸ fun i hi => absurd hi List.not_mem_nil
    · next b hb =>
      obtain ⟨items, hi, rfl⟩ := Option.map_eq_some_iff.mp h
      have hitems := hps.items p List.mem_cons_self items (by rw [hb]; exact hi)
      exact List.forall_mem_singleton.mpr (.conditional hitems)
    · exact namesAlone_of_statement h
    · exact namesAlone_of_preferred hps.types h
    · split at h
      · next q rest' =>
        split_ifs at h
        · exact linkageReading_namesAlone (hps.suffix (suffix_of_tail (List.suffix_cons q rest'))) h
        · exact namesAlone_of_typeDefinition h
        · exact namesAlone_of_typeDefinition h
        · exact namesAlone_of_statement h
        · exact namesAlone_of_statement h
        · exact namesAlone_of_statement h
        · exact namesAlone_of_preferred hps.types h
      · cases h
    · exact namesAlone_of_statement h

lemma itemsReading_namesAlone {top : Bool} {fuel : Nat} {items : List Item} (hps : Plain ps)
    (h : itemsReading top fuel ps = .ok items) : ∀ i ∈ items, i.NamesAlone := by
  induction fuel generalizing ps items with
  | zero =>
    cases ps with
    | nil => exact Except.ok.inj h ▸ fun i hi => absurd hi List.not_mem_nil
    | cons p rest => cases h
  | succ fuel ih =>
    cases ps with
    | nil => exact Except.ok.inj h ▸ fun i hi => absurd hi List.not_mem_nil
    | cons p rest =>
      rw [itemsReading] at h
      split at h
      · next first rest' hr =>
        obtain ⟨taken, ht, -⟩ := itemReading_in hr
        have hrest : Plain rest' := hps.suffix (ht ▸ List.suffix_append taken rest')
        cases hm : itemsReading top fuel rest' with
        | error e => rw [hm] at h; cases h
        | ok more =>
          rw [hm] at h
          obtain rfl : first ++ more = items := by simpa [Except.map] using h
          exact List.forall_mem_append.mpr ⟨itemReading_namesAlone hps hr, ih hrest hm⟩
      · cases h

lemma namesAlone_of_blockItems {items : List Item} (hps : Plain ps) (h : blockItems ps = some items) :
    ∀ i ∈ items, i.NamesAlone :=
  itemsReading_namesAlone hps (itemsReading_of_blockItems h)

lemma Piece.Built.namesAlone (h : p.Built) :
    ∀ items, p.token.items? = some items → ∀ i ∈ items, i.NamesAlone := by
  induction h with
  | lexeme hp => simp [hp, Token.items?]
  | directive hp => simp [hp, Token.items?]
  | round _ hp => simp [hp, Token.items?]
  | square _ hp => simp [hp, Token.items?]
  | curly hqs hp ih =>
    rw [hp]
    exact fun items hi => namesAlone_of_blockItems ⟨fun q hq => (hqs q hq).readsTypes, ih⟩ hi
  | branch hqs hp ih =>
    rw [hp]
    exact fun items hi => namesAlone_of_blockItems ⟨fun q hq => (hqs q hq).readsTypes, ih⟩ hi

lemma SourceUnit.namesAlone_of_read {source : String} {u : SourceUnit} (h : SourceUnit.read source = .ok u) :
    ∀ i ∈ u.items, i.NamesAlone := by
  obtain ⟨scanned, hs, hr⟩ := SourceUnit.read_ok h
  have hbuilt := Scan.built_of_text hs
  exact itemsReading_namesAlone
    ⟨fun p hp => (hbuilt p hp).readsTypes, fun p hp => (hbuilt p hp).namesAlone⟩ hr

end Quadrature.C
