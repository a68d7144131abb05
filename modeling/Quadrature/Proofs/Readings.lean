import Quadrature.Proofs.Rests
import Quadrature.C.Scan

/-! The items that can be read from pieces: a declaration reaches from its first piece to a semicolon,
a function definition from its first piece to its braces. -/

namespace Quadrature.C

variable {p : Piece} {ps qs rest : List Piece}

lemma initDeclarators_reach {fuel : Nat} {r : Ranked (List Declarator × Extent × List Piece)}
    (h : initDeclarators fuel ps = some r) :
    ∃ q, q.isMark ";" = true ∧ q.extent = r.value.2.1 ∧ q :: r.value.2.2 <:+ ps := by
  induction fuel generalizing ps r with
  | zero => exact nomatch h
  | succ fuel ih =>
    rw [initDeclarators] at h
    split at h
    · next rank d p rest hd =>
      have hs : p :: rest <:+ ps := initDeclarator_suffix hd
      split_ifs at h with hp hc
      · obtain rfl := Option.some.inj h
        exact ⟨p, hp, rfl, hs⟩
      · obtain ⟨r', hr, rfl⟩ := Option.map_eq_some_iff.mp h
        obtain ⟨q, hm, he, hl⟩ := ih hr
        exact ⟨q, hm, he, hl.trans (tail_suffix hs)⟩
    · exact nomatch h

lemma declarationReading_reach {r : Ranked (Declaration × List Piece)}
    (h : declarationReading (p :: ps) = some r) :
    ∃ q, q.isMark ";" = true ∧ r.value.1.extent = p.extent.upTo q.extent ∧ q :: r.value.2 <:+ ps := by
  obtain ⟨s, hs, hi⟩ := List.mem_filterMap.mp (Ranked.mem_of_best h)
  obtain ⟨t, ht, rfl⟩ := Option.map_eq_some_iff.mp hi
  obtain ⟨q, hm, he, hl⟩ := initDeclarators_reach ht
  exact ⟨q, hm, by rw [he], hl.trans (specifierReadings_tail hs)⟩

@[grind →]
lemma declarationReading_suffix {r : Ranked (Declaration × List Piece)}
    (h : declarationReading ps = some r) : r.value.2 <:+ ps := by
  cases ps with
  | nil => exact nomatch h
  | cons p ps =>
    obtain ⟨q, -, -, hl⟩ := declarationReading_reach h
    exact suffix_of_tail (tail_suffix hl)

lemma declarationReading_lt {r : Ranked (Declaration × List Piece)} (h : declarationReading ps = some r) :
    r.value.2.length < ps.length := by
  cases ps with
  | nil => exact nomatch h
  | cons p ps =>
    obtain ⟨q, -, -, hl⟩ := declarationReading_reach h
    exact Nat.lt_succ_of_le (tail_suffix hl).length_le

lemma declarationsReading_suffix (fuel : Nat) (ps : List Piece) :
    (declarationsReading fuel ps).2 <:+ ps := by
  induction fuel generalizing ps with
  | zero => exact List.suffix_rfl
  | succ fuel ih =>
    rw [declarationsReading]
    split
    · next r hr => exact (ih _).trans (declarationReading_suffix hr)
    · exact List.suffix_rfl

def DefinitionReach.In (reach : DefinitionReach) (ps : List Piece) : Prop :=
  ∃ q, q.curly?.isSome = true ∧ q.extent = reach.bodyExtent ∧ q :: reach.rest <:+ ps

lemma DefinitionReach.In.mono {reach : DefinitionReach} (h : reach.In ps) (hs : ps <:+ qs) :
    reach.In qs := by
  obtain ⟨q, hc, he, hr⟩ := h
  exact ⟨q, hc, he, hr.trans hs⟩

lemma bodyReading_in {d : Declarator} {old : List Declaration} {reach : DefinitionReach}
    (h : bodyReading d old ps = some reach) : reach.In ps := by
  cases ps with
  | nil => exact nomatch h
  | cons p rest =>
    rw [bodyReading] at h
    split at h
    · next items hi =>
      obtain rfl := Option.some.inj h
      obtain ⟨c, hc, -⟩ := Option.bind_eq_some_iff.mp hi
      exact ⟨p, by rw [hc]; rfl, rfl, List.suffix_rfl⟩
    · exact nomatch h

lemma oldStyleSuffixes_in {d : Declarator} {rank : Int} {r : Ranked DefinitionReach}
    (h : oldStyleSuffixes d rank ps = some r) : r.value.In ps := by
  induction ps generalizing d rank with
  | nil => exact nomatch h
  | cons p rest ih =>
    have hs := List.suffix_cons p rest
    rw [oldStyleSuffixes] at h
    split at h
    · next round hp =>
      simp only at h
      split at h
      · next reach params hb =>
        obtain rfl := Option.some.inj h
        obtain ⟨names, -, hb⟩ := Option.bind_eq_some_iff.mp hb
        exact (bodyReading_in hb).mono ((declarationsReading_suffix _ rest).trans hs)
      · exact (ih h).mono hs
      · exact nomatch h
    · split_ifs at h
      · exact (ih h).mono hs
      · split at h
        · exact (ih h).mono hs
        · exact nomatch h
    · exact nomatch h

lemma oldStyleReading_in {r : Ranked DefinitionReach} (h : oldStyleReading ps = some r) :
    r.value.In ps := by
  cases ps with
  | nil => exact nomatch h
  | cons p rest =>
    have hs := List.suffix_cons p rest
    rw [oldStyleReading] at h
    split at h
    · split_ifs at h
      exact (oldStyleSuffixes_in h).mono hs
    · split at h
      · exact (oldStyleSuffixes_in h).mono hs
      · exact nomatch h
    · exact nomatch h

lemma prototypedReading_in {r : Ranked DefinitionReach} (h : prototypedReading ps = some r) :
    r.value.In ps := by
  unfold prototypedReading at h
  split at h
  · next s hs =>
    obtain ⟨reach, hb, rfl⟩ := Option.map_eq_some_iff.mp h
    exact (bodyReading_in hb).mono ((declaratorReading_suffix hs).trans (dropCallModifier_suffix ps))
  · exact nomatch h

inductive Item.Spans (p q : Piece) : Item → Prop
  | definition {specifier : Specifier} {declarator : Declarator} {old locals : List Declaration} :
      q.curly?.isSome = true →
      Spans p q (.definition (p.extent.upTo q.extent) specifier declarator old q.extent locals)
  | declaration {d : Declaration} : q.isMark ";" = true → d.extent = p.extent.upTo q.extent →
      Spans p q (.declaration d)

lemma definitionReadings_reach {old : Bool} {r : Ranked (Item × List Piece)}
    (h : r ∈ definitionReadings old (p :: ps)) :
    ∃ q, r.value.1.Spans p q ∧ q :: r.value.2 <:+ ps := by
  obtain ⟨s, hs, hr⟩ := List.mem_flatMap.mp h
  obtain ⟨t, ht, rfl⟩ := List.mem_map.mp hr
  have hin : t.value.In s.value.2 := by
    rcases List.mem_append.mp ht with hold | hnew
    · cases old with
      | true => exact oldStyleReading_in (Option.mem_toList.mp hold)
      | false => exact nomatch hold
    · exact prototypedReading_in (Option.mem_toList.mp hnew)
  have htail : s.value.2 <:+ ps := by
    rw [dropCallModifier] at hs
    split_ifs at hs
    · exact specifierReadings_suffix hs
    · exact specifierReadings_tail hs
  obtain ⟨q, hc, he, hrest⟩ := hin.mono htail
  exact ⟨q, by rw [← he]; exact .definition hc, hrest⟩

lemma declaredReading_reach {old : Bool} {r : Ranked (Item × List Piece)}
    (h : declaredReading old (p :: ps) = some r) :
    ∃ q, r.value.1.Spans p q ∧ q :: r.value.2 <:+ ps := by
  rcases List.mem_append.mp (Ranked.mem_of_best h) with hd | hd
  · exact definitionReadings_reach hd
  · obtain ⟨s, hs, rfl⟩ := List.mem_map.mp hd
    obtain ⟨q, hm, he, hrest⟩ := declarationReading_reach (Option.mem_toList.mp hs)
    exact ⟨q, .declaration hm he, hrest⟩

lemma definedNames_suffix {fuel : Nat} {r : Ranked (List Declarator × Extent × List Piece)}
    (h : definedNames fuel ps = some r) : r.value.2.2 <:+ ps := by
  induction fuel generalizing ps r with
  | zero => exact nomatch h
  | succ fuel ih =>
    rw [definedNames] at h
    split at h
    · next rank d trailing rest hd =>
      have hr : rest <:+ ps := declaratorReading_suffix hd
      have ha := (dropAttributes_suffix rest.length rest).trans hr
      split at h
      · next p rest' hp =>
        rw [hp] at ha
        split_ifs at h
        · exact Option.some.inj h ▸ tail_suffix ha
        · obtain ⟨r', hr', rfl⟩ := Option.map_eq_some_iff.mp h
          exact (ih hr').trans (tail_suffix ha)
      · exact nomatch h
    · exact nomatch h

@[grind →]
lemma typeDefinitionReading_suffix {start : Extent} {r : Ranked (Declaration × List Piece)}
    (h : typeDefinitionReading start ps = some r) : r.value.2 <:+ ps := by
  obtain ⟨s, hs, hr⟩ := List.mem_filterMap.mp (Ranked.mem_of_best h)
  obtain ⟨t, ht, rfl⟩ := Option.map_eq_some_iff.mp hr
  exact (definedNames_suffix ht).trans (definedTypeReadings_suffix hs)

@[grind →]
lemma typeDefinitionEnd_suffix (h : typeDefinitionEnd ps = some rest) : rest <:+ ps := by
  unfold typeDefinitionEnd at h
  grind [Option.map_eq_some_iff]

lemma typeDefinitionEnd_lt (h : typeDefinitionEnd ps = some rest) : rest.length < ps.length := by
  match ps with
  | [] => exact nomatch h
  | [p] => exact nomatch h
  | p :: q :: ps =>
    rw [typeDefinitionEnd] at h
    split_ifs at h
    · obtain ⟨r, hr, rfl⟩ := Option.map_eq_some_iff.mp h
      exact Nat.lt_succ_of_le (typeDefinitionReading_suffix hr).length_le
    · obtain ⟨r, hr, rfl⟩ := Option.map_eq_some_iff.mp h
      exact Nat.lt_succ_of_le ((typeDefinitionReading_suffix hr).trans (List.suffix_cons q ps)).length_le

lemma preferred_cases {α : Type} {declared : Option (Ranked α)} {statement : Option α} {a : α}
    (h : preferred declared statement = some a) :
    (∃ r, declared = some r ∧ r.value = a) ∨ statement = some a := by
  unfold preferred at h
  grind

lemma suffix_of_bind {o : Option (List Piece)} {f : List Piece → Option (List Piece)}
    (h : o.bind f = some rest) (ho : ∀ {r}, o = some r → r <:+ ps)
    (hf : ∀ {r s}, f r = some s → s <:+ r) : rest <:+ ps := by
  obtain ⟨r, hr, hs⟩ := Option.bind_eq_some_iff.mp h
  exact (hf hs).trans (ho hr)

lemma suffix_of_preferred {statement : Option (List Piece)}
    (h : preferred ((declarationReading ps).map fun r => ⟨r.rank, r.value.2⟩) statement = some rest)
    (hs : statement = some rest → rest <:+ ps) : rest <:+ ps := by
  rcases preferred_cases h with ⟨r, hr, rfl⟩ | h
  · obtain ⟨d, hd, rfl⟩ := Option.map_eq_some_iff.mp hr
    exact declarationReading_suffix hd
  · exact hs h

structure StatementsLeaveRests (fuel : Nat) : Prop where
  statement : ∀ {ps rest}, statementEnd fuel ps = some rest → rest <:+ ps
  case : ∀ ps, caseEnd fuel ps <:+ ps

lemma caseEnd_suffix {fuel : Nat} (h : StatementsLeaveRests fuel) (ps : List Piece) :
    caseEnd (fuel + 1) ps <:+ ps := by
  cases ps with
  | nil => simp [caseEnd]
  | cons p ps =>
    unfold caseEnd
    split_ifs
    · exact List.suffix_rfl
    · dsimp only
      split
      · next rest hr =>
        refine (h.case rest).trans ?_
        rcases Option.or_eq_some_iff.mp hr with ht | ⟨-, hp⟩
        · exact typeDefinitionEnd_suffix ht
        · exact suffix_of_preferred hp h.statement
      · exact List.suffix_rfl

section

variable {inner : List Piece → Option (List Piece)} (hs : ∀ {r s}, inner r = some s → s <:+ r)
include hs

lemma ifEnd_suffix (h : ifEnd inner ps = some rest) : rest <:+ ps := by
  have hb : ∀ {r}, (afterCondition ps).bind inner = some r → r <:+ ps :=
    fun hr => suffix_of_bind hr afterCondition_suffix hs
  unfold ifEnd at h
  grind

lemma doEnd_suffix (h : doEnd inner ps = some rest) : rest <:+ ps := by
  unfold doEnd at h
  split at h
  · next q rest' hq =>
    split_ifs at h
    exact (suffix_of_bind h afterCondition_suffix afterMark_suffix).trans (tail_suffix (hs hq))
  · exact nomatch h

lemma forEnd_suffix (h : forEnd inner ps = some rest) : rest <:+ ps := by
  unfold forEnd at h
  grind

lemma wordEnd_suffix (h : wordEnd inner p ps = some rest) : rest <:+ ps := by
  unfold wordEnd at h
  split at h
  · next q rest' =>
    split_ifs at h
    · exact suffix_of_tail (suffix_of_preferred h hs)
    · exact expressionStatementEnd_tail h
  · exact nomatch h

end

lemma returnEnd_suffix (h : returnEnd ps = some rest) : rest <:+ ps := by
  rcases Option.or_eq_some_iff.mp h with ha | ⟨-, hb⟩
  · exact afterMark_suffix ha
  · exact suffix_of_bind hb expressionsEnd_suffix afterMark_suffix

lemma gotoEnd_suffix (h : gotoEnd ps = some rest) : rest <:+ ps := by
  unfold gotoEnd at h
  grind

lemma tryEnd_suffix (h : tryEnd ps = some rest) : rest <:+ ps := by
  unfold tryEnd at h
  split at h
  · next q rest' hq =>
    have hr : rest' <:+ ps := tail_suffix (afterBlock_suffix hq)
    split_ifs at h
    · exact (suffix_of_bind h afterCondition_suffix afterBlock_suffix).trans hr
    · exact (afterBlock_suffix h).trans hr
  · exact nomatch h

lemma statementEnd_tail {fuel : Nat} (h : StatementsLeaveRests fuel)
    (he : statementEnd (fuel + 1) (p :: ps) = some rest) : rest <:+ ps := by
  obtain ⟨hs, hc⟩ := h
  unfold statementEnd at he
  split at he
  · grind
  · grind
  · split at he
    · exact ifEnd_suffix hs he
    · exact suffix_of_bind he afterCondition_suffix afterBlock_suffix
    · exact suffix_of_bind he afterCondition_suffix hs
    · exact doEnd_suffix hs he
    · exact forEnd_suffix hs he
    · exact returnEnd_suffix he
    · exact afterMark_suffix he
    · exact afterMark_suffix he
    · exact afterMark_suffix he
    · exact gotoEnd_suffix he
    · obtain ⟨r, hr, rfl⟩ := Option.map_eq_some_iff.mp he
      exact (hc r).trans (suffix_of_bind hr expressionEnd_suffix afterMark_suffix)
    · obtain ⟨r, hr, rfl⟩ := Option.map_eq_some_iff.mp he
      exact (hc r).trans (afterMark_suffix hr)
    · exact tryEnd_suffix he
    · exact wordEnd_suffix hs he
  · exact expressionStatementEnd_tail he

lemma statementEnd_suffix {fuel : Nat} (h : StatementsLeaveRests fuel)
    (he : statementEnd (fuel + 1) ps = some rest) : rest <:+ ps := by
  cases ps with
  | nil => simp [statementEnd] at he
  | cons p ps => exact suffix_of_tail (statementEnd_tail h he)

lemma statementsLeaveRests (fuel : Nat) : StatementsLeaveRests fuel := by
  induction fuel with
  | zero => exact ⟨fun h => by simp [statementEnd] at h, fun ps => by simp [caseEnd]⟩
  | succ fuel ih => exact ⟨statementEnd_suffix ih, caseEnd_suffix ih⟩

lemma statementEnd_lt {fuel : Nat} (h : statementEnd fuel ps = some rest) : rest.length < ps.length := by
  match fuel, ps with
  | 0, _ => simp [statementEnd] at h
  | fuel + 1, [] => simp [statementEnd] at h
  | fuel + 1, p :: ps => exact Nat.lt_succ_of_le (statementEnd_tail (statementsLeaveRests fuel) h).length_le

/-- The items that can be read from pieces. Items in braces and in conditionals are read when these
close, and come with their pieces. -/
inductive Item.ReadIn (ps : List Piece) : Item → Prop
  | spans {p q : Piece} {rest : List Piece} {item : Item} : p :: rest <:+ ps → q ∈ rest →
      item.Spans p q → ReadIn ps item
  | typeDefinition {d : Declaration} : ReadIn ps (.typeDefinition d)
  | conditional {p : Piece} {b : Branch} {extent : Extent} {items : List Item} : p ∈ ps →
      p.token = .branch b → b.items = some items → ReadIn ps (.conditional extent items)
  | braces {p : Piece} {c : Curly} {extent : Extent} {items : List Item} : p ∈ ps →
      p.curly? = some c → c.items = some items → ReadIn ps (.braces extent items)
  | linkage {extent : Extent} {item : Item} : ReadIn ps item → ReadIn ps (.linkage extent [item])

lemma Item.ReadIn.mono {item : Item} (h : item.ReadIn ps) (hs : ps <:+ qs) : item.ReadIn qs := by
  induction h with
  | spans hp hq hi => exact .spans (hp.trans hs) hq hi
  | typeDefinition => exact .typeDefinition
  | conditional hp hb hi => exact .conditional (hs.mem hp) hb hi
  | braces hp hc hi => exact .braces (hs.mem hp) hc hi
  | linkage _ ih => exact .linkage ih

lemma Item.ReadIn.append {item : Item} (h : item.ReadIn ps) (qs : List Piece) : item.ReadIn (ps ++ qs) := by
  induction h with
  | spans hp hq hi =>
    obtain ⟨t, rfl⟩ := hp
    exact .spans ⟨t, by simp⟩ (List.mem_append_left qs hq) hi
  | typeDefinition => exact .typeDefinition
  | conditional hp hb hi => exact .conditional (List.mem_append_left qs hp) hb hi
  | braces hp hc hi => exact .braces (List.mem_append_left qs hp) hc hi
  | linkage _ ih => exact .linkage ih

def ItemReach.In (r : ItemReach) (ps : List Piece) : Prop :=
  ∃ taken, ps = taken ++ r.2 ∧ (r.1 = [] ∨ ∃ item, r.1 = [item] ∧ item.ReadIn taken)

lemma ItemReach.In.mono {r : ItemReach} (h : r.In ps) (hs : ps <:+ qs) : r.In qs := by
  obtain ⟨taken, rfl, hr⟩ := h
  obtain ⟨t, rfl⟩ := hs
  refine ⟨t ++ taken, (List.append_assoc t taken r.2).symm, ?_⟩
  rcases hr with hr | ⟨item, hr, hi⟩
  · exact .inl hr
  · exact .inr ⟨item, hr, hi.mono (List.suffix_append t taken)⟩

lemma ItemReach.In.nil (h : rest <:+ ps) : ItemReach.In ([], rest) ps := by
  obtain ⟨taken, rfl⟩ := h
  exact ⟨taken, rfl, .inl rfl⟩

lemma ItemReach.In.single {item : Item} (hi : item.ReadIn ps) (rest : List Piece) :
    ItemReach.In ([item], rest) (ps ++ rest) :=
  ⟨ps, rfl, .inr ⟨item, rfl, hi⟩⟩

lemma declaredReading_in {old : Bool} {r : Ranked (Item × List Piece)}
    (h : declaredReading old ps = some r) :
    ∃ taken, ps = taken ++ r.value.2 ∧ r.value.1.ReadIn taken := by
  cases ps with
  | nil => exact nomatch h
  | cons p ps =>
    obtain ⟨q, hs, t, rfl⟩ := declaredReading_reach h
    refine ⟨p :: (t ++ [q]), by simp, .spans List.suffix_rfl ?_ hs⟩
    exact List.mem_append_right t (List.mem_singleton.mpr rfl)

lemma linkageReading_in {start : Extent} {r : ItemReach} (h : linkageReading start ps = some r) :
    r.In ps := by
  cases ps with
  | nil => exact nomatch h
  | cons p rest =>
    rw [linkageReading] at h
    split at h
    · next items hi =>
      obtain rfl := Option.some.inj h
      obtain ⟨c, hc, hi⟩ := Option.bind_eq_some_iff.mp hi
      exact .single (.linkage (.braces (List.mem_singleton.mpr rfl) hc hi)) rest
    · obtain ⟨d, hd, rfl⟩ := Option.map_eq_some_iff.mp h
      obtain ⟨taken, ht, hi⟩ := declaredReading_in hd
      rw [ht]
      exact .single (.linkage hi) d.value.2

lemma typeDefinition_in {start : Extent} {r : ItemReach}
    (h : (typeDefinitionReading start ps).map
      (fun r => ([Item.typeDefinition r.value.1], r.value.2)) = some r) : r.In ps := by
  obtain ⟨d, hd, rfl⟩ := Option.map_eq_some_iff.mp h
  obtain ⟨taken, rfl⟩ := typeDefinitionReading_suffix hd
  exact .single .typeDefinition d.value.2

lemma statement_in {o : Option (List Piece)} {r : ItemReach}
    (h : o.map (fun rest => (([] : List Item), rest)) = some r)
    (ho : ∀ {rest}, o = some rest → rest <:+ ps) : r.In ps := by
  obtain ⟨rest, hr, rfl⟩ := Option.map_eq_some_iff.mp h
  exact .nil (ho hr)

lemma preferred_in {statement : Option ItemReach} {r : ItemReach}
    (h : preferred ((declaredReading true ps).map fun r => ⟨r.rank, ([r.value.1], r.value.2)⟩)
      statement = some r)
    (hs : statement = some r → r.In ps) : r.In ps := by
  rcases preferred_cases h with ⟨d, hd, rfl⟩ | h
  · obtain ⟨e, he, rfl⟩ := Option.map_eq_some_iff.mp hd
    obtain ⟨taken, rfl, hi⟩ := declaredReading_in he
    exact .single hi e.value.2
  · exact hs h

lemma plainItem_in {top : Bool} {r : ItemReach} (h : plainItem top ps = some r) : r.In ps := by
  refine preferred_in h fun h => statement_in h fun {rest} h => ?_
  rcases Option.or_eq_some_iff.mp h with hl | ⟨-, hd⟩
  · rcases Option.or_eq_some_iff.mp hl with hl | ⟨-, he⟩
    · split at hl
      · split_ifs at hl
        exact (statementsLeaveRests _).statement hl
      · exact nomatch hl
    · exact expressionStatementEnd_suffix he
  · exact emptyDeclarationEnd_suffix hd

lemma itemReading_in {top : Bool} {r : ItemReach} (h : itemReading top ps = some r) : r.In ps := by
  cases ps with
  | nil => exact nomatch h
  | cons p rest =>
    have hs : ∀ {s}, statementEnd (statementFuel (p :: rest)) (p :: rest) = some s → s <:+ p :: rest :=
      (statementsLeaveRests _).statement
    unfold itemReading at h
    dsimp only at h
    split at h
    · exact Option.some.inj h ▸ .nil (List.suffix_cons p rest)
    · next b hb =>
      obtain ⟨items, hi, rfl⟩ := Option.map_eq_some_iff.mp h
      exact .single (.conditional (List.mem_singleton.mpr rfl) hb hi) rest
    · exact statement_in h hs
    · exact preferred_in h fun h => statement_in h hs
    · split at h
      · next q rest' =>
        split_ifs at h
        · exact (linkageReading_in h).mono (suffix_of_tail (List.suffix_cons q rest'))
        · exact (typeDefinition_in h).mono (List.suffix_cons p _)
        · exact (typeDefinition_in h).mono (suffix_of_tail (List.suffix_cons q rest'))
        · exact statement_in h hs
        · exact statement_in h hs
        · exact statement_in h expressionStatementEnd_suffix
        · exact plainItem_in h
      · exact nomatch h
    · exact statement_in h expressionStatementEnd_suffix

lemma itemsReading_readIn {top : Bool} {fuel : Nat} {items : List Item}
    (h : itemsReading top fuel ps = .ok items) : ∀ item ∈ items, item.ReadIn ps := by
  induction fuel generalizing ps items with
  | zero =>
    cases ps with
    | nil => cases h; exact fun _ hi => nomatch hi
    | cons p rest => exact nomatch h
  | succ fuel ih =>
    cases ps with
    | nil => cases h; exact fun _ hi => nomatch hi
    | cons p rest =>
      rw [itemsReading] at h
      split at h
      · next first rest' hr =>
        obtain ⟨taken, ht, hf⟩ := itemReading_in hr
        cases hm : itemsReading top fuel rest' with
        | error e => rw [hm] at h; exact nomatch h
        | ok more =>
          rw [hm] at h
          obtain rfl : first ++ more = items := by simpa [Except.map] using h
          intro item hi
          rw [ht]
          rcases List.mem_append.mp hi with hi | hi
          · rcases hf with rfl | ⟨i, rfl, hread⟩
            · exact nomatch hi
            · exact List.mem_singleton.mp hi ▸ hread.append rest'
          · exact (ih hm item hi).mono (List.suffix_append taken rest')
      · exact nomatch h

lemma itemsReading_of_blockItems {items : List Item} (h : blockItems ps = some items) :
    itemsReading false ps.length ps = .ok items := by
  rw [blockItems] at h
  cases hr : itemsReading false ps.length ps with
  | error e => rw [hr] at h; exact nomatch h
  | ok items' => rw [hr] at h; exact congrArg Except.ok (Option.some.inj h)

end Quadrature.C
