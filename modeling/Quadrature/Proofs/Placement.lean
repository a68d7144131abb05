import Quadrature.Proofs.Lines
import Quadrature.Proofs.Readings

/-! Where pieces and items stand in the text that has been scanned: each starts at a character that is no
blank, a function definition ends behind a brace and a declaration behind a semicolon. -/

namespace Quadrature.C

open Text

variable {done : List Char} {e : Extent} {z : Char} {item : Item} {p q : Piece} {ps qs : List Piece}

def Begins (done : List Char) (p : Position) : Prop :=
  ∃ a b, done = a ++ b ∧ p = Position.start.after a ∧ ∃ c ∈ b.head?, isBlank c = false

def Extent.Covers (done : List Char) (e : Extent) (z : Char) : Prop :=
  ∃ a b rest, done = a ++ (b ++ rest) ∧
    e = .between (Position.start.after a) (Position.start.after (a ++ b)) ∧
    (∃ c ∈ b.head?, isBlank c = false) ∧ z ∈ b.getLast?

lemma Begins.mono {p : Position} (h : Begins done p) (more : List Char) : Begins (done ++ more) p := by
  obtain ⟨a, b, rfl, hp, c, hc, hb⟩ := h
  exact ⟨a, b ++ more, List.append_assoc a b more, hp, c,
    by rw [List.head?_append, Option.mem_def.mp hc]; rfl, hb⟩

lemma Extent.Covers.mono (h : e.Covers done z) (more : List Char) : e.Covers (done ++ more) z := by
  obtain ⟨a, b, rest, rfl, he, hb, hz⟩ := h
  exact ⟨a, b, rest ++ more, by simp, he, hb, hz⟩

lemma Begins.covers (h : Begins done e.first) (he : e.last = Position.start.after done)
    (hz : z ∈ done.getLast?) : e.Covers done z := by
  obtain ⟨a, b, rfl, hp, c, hc, hb⟩ := h
  have hne : b ≠ [] := by
    rintro rfl
    exact nomatch hc
  refine ⟨a, b, [], by simp, ?_, ⟨c, hc, hb⟩, ?_⟩
  · rw [← he, ← hp]
    rfl
  · rwa [List.getLast?_append_of_ne_nil a hne] at hz

inductive Item.Sited (done : List Char) : Item → Prop
  | definition {e : Extent} {s : Specifier} {d : Declarator} {old locals : List Declaration}
      {body : Extent} : e.Covers done '}' → Sited done (.definition e s d old body locals)
  | declaration {d : Declaration} : d.extent.Covers done ';' → Sited done (.declaration d)
  | typeDefinition {d : Declaration} : Sited done (.typeDefinition d)
  | conditional {e : Extent} {items : List Item} : (∀ i ∈ items, Sited done i) →
      Sited done (.conditional e items)
  | linkage {e : Extent} {items : List Item} : (∀ i ∈ items, Sited done i) →
      Sited done (.linkage e items)
  | braces {e : Extent} {items : List Item} : (∀ i ∈ items, Sited done i) →
      Sited done (.braces e items)

lemma Item.Sited.mono (h : item.Sited done) (more : List Char) : item.Sited (done ++ more) := by
  induction h with
  | definition h => exact .definition (h.mono more)
  | declaration h => exact .declaration (h.mono more)
  | typeDefinition => exact .typeDefinition
  | conditional _ ih => exact .conditional ih
  | linkage _ ih => exact .linkage ih
  | braces _ ih => exact .braces ih

def Token.items? : Token → Option (List Item)
  | .curly c => c.items
  | .branch b => b.items
  | _ => none

lemma Token.items?_of_curly? {p : Piece} {c : Curly} (h : p.curly? = some c) : p.token.items? = c.items := by
  rw [Piece.curly?] at h
  split at h
  · next ht => rw [ht, Option.some.inj h, Token.items?]
  · exact nomatch h

def Token.Sited (done : List Char) (t : Token) : Prop :=
  ∀ items, t.items? = some items → ∀ i ∈ items, i.Sited done

lemma Token.Sited.mono {t : Token} (h : t.Sited done) (more : List Char) : t.Sited (done ++ more) :=
  fun items ht i hi => (h items ht i hi).mono more

/-- Whatever is read from the first piece up to the second one stands where its extent says. -/
structure Piece.Joins (done : List Char) (p q : Piece) : Prop where
  braces : q.curly?.isSome = true → (p.extent.upTo q.extent).Covers done '}'
  semicolon : q.isMark ";" = true → (p.extent.upTo q.extent).Covers done ';'

lemma Piece.Joins.mono (h : p.Joins done q) (more : List Char) : p.Joins (done ++ more) q :=
  ⟨fun hq => (h.braces hq).mono more, fun hq => (h.semicolon hq).mono more⟩

structure Piece.Closes (done : List Char) (p : Piece) : Prop where
  braces : p.curly?.isSome = true → p.extent.last = Position.start.after done ∧ '}' ∈ done.getLast?
  semicolon : p.isMark ";" = true → p.extent.last = Position.start.after done ∧ ';' ∈ done.getLast?

lemma Begins.joins (hp : Begins done p.extent.first) (hq : q.Closes done) : p.Joins done q where
  braces h := Begins.covers (e := p.extent.upTo q.extent) hp (hq.braces h).1 (hq.braces h).2
  semicolon h := Begins.covers (e := p.extent.upTo q.extent) hp (hq.semicolon h).1 (hq.semicolon h).2

structure Row (done : List Char) (ps : List Piece) : Prop where
  begins : ∀ p ∈ ps, Begins done p.extent.first
  sited : ∀ p ∈ ps, p.token.Sited done
  itself : ∀ p ∈ ps, p.Joins done p
  joins : ps.Pairwise (Piece.Joins done)

lemma Row.nil (done : List Char) : Row done [] where
  begins _ hp := nomatch hp
  sited _ hp := nomatch hp
  itself _ hp := nomatch hp
  joins := .nil

lemma Row.mono (h : Row done ps) (more : List Char) : Row (done ++ more) ps where
  begins p hp := (h.begins p hp).mono more
  sited p hp := (h.sited p hp).mono more
  itself p hp := (h.itself p hp).mono more
  joins := h.joins.imp fun hj => hj.mono more

lemma Row.suffix (h : Row done ps) (hs : qs <:+ ps) : Row done qs where
  begins p hp := h.begins p (hs.mem hp)
  sited p hp := h.sited p (hs.mem hp)
  itself p hp := h.itself p (hs.mem hp)
  joins := h.joins.sublist hs.sublist

lemma Row.concat (h : Row done ps) (hb : Begins done p.extent.first) (hs : p.token.Sited done)
    (hc : p.Closes done) : Row done (ps ++ [p]) where
  begins := by
    simpa only [List.forall_mem_append, List.forall_mem_singleton] using ⟨h.begins, hb⟩
  sited := by
    simpa only [List.forall_mem_append, List.forall_mem_singleton] using ⟨h.sited, hs⟩
  itself := by
    simpa only [List.forall_mem_append, List.forall_mem_singleton] using ⟨h.itself, hb.joins hc⟩
  joins := by
    refine List.pairwise_append.mpr ⟨h.joins, List.pairwise_singleton _ _, fun q hq r hr => ?_⟩
    obtain rfl := List.mem_singleton.mp hr
    exact (h.begins q hq).joins hc

lemma Row.joins_of_mem {rest : List Piece} (h : Row done (p :: rest)) (hq : q ∈ p :: rest) :
    p.Joins done q := by
  rcases List.mem_cons.mp hq with rfl | hq
  · exact h.itself q List.mem_cons_self
  · exact List.rel_of_pairwise_cons h.joins hq

lemma Row.sited_of_readIn (h : Row done ps) (hi : item.ReadIn ps) : item.Sited done := by
  induction hi with
  | spans hp hq hs =>
    have hj := (h.suffix hp).joins_of_mem (List.mem_cons_of_mem _ hq)
    cases hs with
    | definition hc => exact .definition (hj.braces hc)
    | declaration hm he => exact .declaration (he ▸ hj.semicolon hm)
  | typeDefinition => exact .typeDefinition
  | conditional hp hb hi => exact .conditional (h.sited _ hp _ (by rw [hb]; exact hi))
  | braces hp hc hi => exact .braces (h.sited _ hp _ ((Token.items?_of_curly? hc).trans hi))
  | linkage _ ih => exact .linkage fun i hi => List.mem_singleton.mp hi ▸ ih

lemma Row.sited_of_blockItems {items : List Item} (h : Row done ps) (hi : blockItems ps = some items) :
    ∀ i ∈ items, i.Sited done :=
  fun i hm => h.sited_of_readIn (itemsReading_readIn (itemsReading_of_blockItems hi) i hm)

end Quadrature.C
