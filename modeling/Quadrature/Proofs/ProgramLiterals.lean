import Quadrature.Proofs.GeneratedCode
import Quadrature.Proofs.Lines

/-! A program inside the source that hands it to a device: reading the string literals gives it back. -/

namespace Quadrature.Generation

open Text Template

variable {b cs line : List Char}

def escape? : Char → Option Char
  | '\\' => some '\\'
  | '"' => some '"'
  | 'n' => some '\n'
  | _ => none

/-- What the body of a string literal stands for. No body holds a line feed or a bare quote, or ends
inside an escape. -/
def decoded : List Char → Option (List Char)
  | [] => some []
  | ['\\'] => none
  | '\\' :: c :: cs => (escape? c).bind fun d => (decoded cs).map (d :: ·)
  | c :: cs => if c = '"' ∨ c = '\n' then none else (decoded cs).map (c :: ·)

def endedLines : List Char → List Char
  | [] => []
  | '\r' :: '\n' :: cs => '\n' :: endedLines cs
  | [c] => if c = '\n' then ['\n'] else [c, '\n']
  | c :: cs => c :: endedLines cs

inductive Inside where
  | nothing
  | body (done : List Char)
  | escape (done : List Char)

def readLiterals (bodies : List (List Char)) : Inside → List Char → Option (List (List Char) × List Char)
  | .nothing, [] => some (bodies, [])
  | .nothing, c :: cs =>
    if c = '"' then readLiterals bodies (.body []) cs
    else if c = ' ' ∨ c = '\n' then readLiterals bodies .nothing cs
    else some (bodies, c :: cs)
  | .body _, [] => none
  | .body done, c :: cs =>
    if c = '"' then readLiterals (bodies ++ [done]) .nothing cs
    else if c = '\\' then readLiterals bodies (.escape done) cs
    else if c = '\n' then none
    else readLiterals bodies (.body (done ++ [c])) cs
  | .escape _, [] => none
  | .escape done, c :: cs => if c = '\n' then none else readLiterals bodies (.body (done ++ ['\\', c])) cs

/-! ## Decoding -/

lemma decoded_literalChars (cs rest : List Char) (h : '\n' ∉ cs) :
    decoded (cs.flatMap literalChar ++ rest) = (decoded rest).map (cs ++ ·) := by
  induction cs with
  | nil => simp
  | cons c cs ih =>
    rw [List.mem_cons, not_or] at h
    rw [List.flatMap_cons, List.append_assoc]
    by_cases hb : c = '\\'
    · subst hb
      simp [literalChar, decoded, escape?, ih h.2, Function.comp_def]
    by_cases hq : c = '"'
    · subst hq
      simp [literalChar, decoded, escape?, ih h.2, Function.comp_def]
    · rw [literalChar, if_neg hb, if_neg hq, List.singleton_append, decoded.eq_4 _ _ (by simp [hb]) (by simp [hb]),
        if_neg (by simp [hq, Ne.symm h.1]), ih h.2]
      simp [Function.comp_def]

lemma decoded_literalLine (h : '\n' ∉ chomp line) :
    decoded (literalLine line).toList = some (chomp line ++ ['\n']) := by
  rw [literalLine, String.toList_ofList, decoded_literalChars _ _ h]
  rfl

lemma chomp_of_not_mem (h : '\n' ∉ b) : chomp b = b := by
  rcases List.eq_nil_or_concat b with rfl | ⟨b', c, rfl⟩
  · rfl
  · have hc : c ≠ '\n' := by
      rintro rfl
      simp at h
    simp [chomp, hc]

lemma endedLines_cons {c d : Char} (h : ¬ (c = '\r' ∧ d = '\n')) (cs : List Char) :
    endedLines (c :: d :: cs) = c :: endedLines (d :: cs) := by
  rw [endedLines]
  · intro _ hc hd
    exact h ⟨hc, (List.cons.inj hd).1⟩
  · simp

lemma endedLines_newline (cs : List Char) : endedLines ('\n' :: cs) = '\n' :: endedLines cs := by
  cases cs with
  | nil => rfl
  | cons d cs => exact endedLines_cons (by simp) cs

lemma endedLines_append_newline (hb : '\n' ∉ b) (cs : List Char) :
    endedLines (b ++ '\n' :: cs) = chomp (b ++ ['\n']) ++ '\n' :: endedLines cs := by
  induction b with
  | nil => exact endedLines_newline cs
  | cons c b ih =>
    obtain ⟨hc, hb⟩ := List.ne_and_not_mem_of_not_mem_cons hb
    cases b with
    | nil =>
      by_cases hr : c = '\r'
      · subst hr
        rfl
      · rw [List.singleton_append, endedLines_cons (by simp [hr]), endedLines_newline, chomp_newline]
        simp [hr]
    | cons d b =>
      obtain ⟨hd, -⟩ := List.ne_and_not_mem_of_not_mem_cons hb
      have hchomp : chomp (c :: d :: b ++ ['\n']) = c :: chomp (d :: b ++ ['\n']) := by
        rw [chomp_newline, chomp_newline, List.getLast?_cons_cons]
        split_ifs <;> rfl
      rw [List.cons_append, List.cons_append, endedLines_cons (by simp [Ne.symm hd]), ← List.cons_append, ih hb,
        hchomp]
      rfl

lemma endedLines_of_not_mem (hb : '\n' ∉ b) (hne : b ≠ []) : endedLines b = b ++ ['\n'] := by
  induction b with
  | nil => exact absurd rfl hne
  | cons c b ih =>
    obtain ⟨hc, hb⟩ := List.ne_and_not_mem_of_not_mem_cons hb
    cases b with
    | nil => simp [endedLines, Ne.symm hc]
    | cons d b =>
      obtain ⟨hd, -⟩ := List.ne_and_not_mem_of_not_mem_cons hb
      rw [endedLines_cons (by simp [Ne.symm hd]), ih hb (by simp)]
      rfl

lemma not_mem_chomp_newline (hb : '\n' ∉ b) : '\n' ∉ chomp (b ++ ['\n']) := by
  rw [chomp_newline]
  split_ifs
  · exact fun h => hb (List.dropLast_subset b h)
  · exact hb

lemma AreLines.not_mem_chomp {ls : List (List Char)} (h : AreLines ls) : ∀ l ∈ ls, '\n' ∉ chomp l := by
  induction h with
  | nil => simp
  | last _ hl => simpa [chomp_of_not_mem hl] using hl
  | cons hb _ ih => exact List.forall_mem_cons.mpr ⟨not_mem_chomp_newline hb, ih⟩

lemma mapM_decoded {ls : List (List Char)} (h : AreLines ls) :
    ((ls.map fun l => (literalLine l).toList).mapM decoded).map List.flatten = some (endedLines ls.flatten) := by
  induction h with
  | nil => rfl
  | @last l hne hl =>
    have hd := decoded_literalLine ((chomp_of_not_mem hl).symm ▸ hl)
    simp [List.mapM_cons, hd, chomp_of_not_mem hl, endedLines_of_not_mem hl hne]
  | @cons b ls hb _ ih =>
    have hd := decoded_literalLine (not_mem_chomp_newline hb)
    obtain ⟨ds, hds, hflat⟩ := Option.map_eq_some_iff.mp ih
    rw [List.map_cons, List.mapM_cons, hd, hds, List.flatten_cons, List.append_assoc, List.singleton_append,
      endedLines_append_newline hb, ← hflat]
    simp

/-! ## Reading the literals -/

lemma readLiterals_body (hb : (decoded b).isSome) (bodies : List (List Char)) (done rest : List Char) :
    readLiterals bodies (.body done) (b ++ '"' :: rest) = readLiterals (bodies ++ [done ++ b]) .nothing rest := by
  induction b using decoded.induct generalizing done with
  | case1 => simp [readLiterals]
  | case2 => simp [decoded] at hb
  | case3 c cs ih =>
    rw [decoded] at hb
    have hc : c ≠ '\n' := by
      rintro rfl
      simp [escape?] at hb
    have hcs : (decoded cs).isSome := by
      obtain ⟨ds, hds⟩ := Option.isSome_iff_exists.mp hb
      obtain ⟨d, -, hd⟩ := Option.bind_eq_some_iff.mp hds
      obtain ⟨es, he, -⟩ := Option.map_eq_some_iff.mp hd
      simp [he]
    simp [readLiterals, hc, ih hcs]
  | case4 c cs h₁ h₂ hc => simp [decoded.eq_4 c cs h₁ h₂, hc] at hb
  | case5 c cs h₁ h₂ hc ih =>
    rw [decoded.eq_4 c cs h₁ h₂, if_neg hc, Option.isSome_map] at hb
    rw [not_or] at hc
    have hne : c ≠ '\\' := by
      rintro rfl
      cases cs with
      | nil => exact h₁ rfl rfl
      | cons d cs => exact h₂ d cs rfl rfl
    simp [readLiterals, hc, hne, ih hb]

lemma readLiterals_literalsText (bs : List String) (h : ∀ b ∈ bs, (decoded b.toList).isSome)
    (bodies : List (List Char)) (rest : List Char) :
    readLiterals bodies .nothing ((literalsText bs).toList ++ rest) =
      readLiterals (bodies ++ bs.map String.toList) .nothing rest := by
  induction bs generalizing bodies with
  | nil => simp [literalsText]
  | cons b bs ih =>
    rw [List.forall_mem_cons] at h
    have hcons : (literalsText (b :: bs)).toList ++ rest =
        '\n' :: ' ' :: ' ' :: ' ' :: ' ' :: '"' :: (b.toList ++ '"' :: ((literalsText bs).toList ++ rest)) := by
      simp [literalsText, String.join_cons]
    rw [hcons]
    simp [readLiterals, readLiterals_body h.1, ih h.2]

lemma map_toList_literalLines (p : String) :
    (literalLines p).map String.toList = (lines p.toList).map fun l => (literalLine l).toList := by
  rw [literalLines, List.map_map]
  rfl

lemma decoded_literalLines (p : String) :
    (((literalLines p).map String.toList).mapM decoded).map List.flatten = some (endedLines p.toList) := by
  rw [map_toList_literalLines, mapM_decoded (areLines_lines _), flatten_lines]

lemma isSome_decoded {p body : String} (h : body ∈ literalLines p) : (decoded body.toList).isSome := by
  obtain ⟨l, hl, rfl⟩ := List.mem_map.mp h
  simp [decoded_literalLine (AreLines.not_mem_chomp (areLines_lines _) l hl)]

lemma readLiterals_programText (program : String) (rest : List Char) :
    readLiterals [] .nothing ((literalsText (literalLines program) ++ ";\n").toList ++ rest) =
      some ((literalLines program).map String.toList, ';' :: '\n' :: rest) := by
  rw [String.toList_append, List.append_assoc, readLiterals_literalsText _ fun b hb => isSome_decoded hb]
  rfl

end Quadrature.Generation

namespace Quadrature

open Generation

/-- A program reaches the device as it was rendered. Its lines stand in the source as string literals, one
behind the other, and what these stand for is the program with line feeds at the ends of its lines. -/
theorem program_survives_embedding :
    (∀ p : String, (∀ body ∈ literalLines p, (decoded body.toList).isSome) ∧
      (((literalLines p).map String.toList).mapM decoded).map List.flatten = some (endedLines p.toList)) ∧
    ∀ (files : Store) (i : Integral) (o : GenerationOptions), i.dimensions ≠ 0 →
      i.integrand.hasBody files = true → ∃ text program code before after rest,
        i.integrand.text? files = some text ∧
        TemplateSet.builtin.render .kernel (openClContext i o text) = .ok program ∧
        (∃ start behind, program = start ++ text ++ behind) ∧
        generateCode .builtin files .openCl i o = .ok code ∧
        code.source = before ++ ("static const char *_" ++ i.name ++ "_program_source =") ++ after ∧
        readLiterals [] .nothing after.toList = some ((literalLines program).map String.toList, ';' :: rest) := by
  refine ⟨fun p => ⟨fun body hb => isSome_decoded hb, decoded_literalLines p⟩, ?_⟩
  intro files i o hn hbody
  obtain ⟨text, htext, hdef⟩ := definitionText_ok hbody
  obtain ⟨program, hp, start, behind, hprogram, -⟩ := renders_kernel i o text
  obtain ⟨source, hs, a, b, hsource, c, d, hb, -⟩ := renders_openClSource i o text (literalLines program)
  have hcode := openClCode_ok hdef hn (render_builtin hp)
    (render_builtin (provides_baseContext i o _).render_header) (render_builtin hs)
  refine ⟨text, program, _, a ++ structText (boundsTypeName i) i.dimensions ++ c,
    literalsText (literalLines program) ++ ";\n" ++ d, '\n' :: d.toList, htext, render_builtin hp,
    ⟨start, "\n" ++ behind, ?_⟩, hcode, ?_, ?_⟩
  · rw [hprogram]
    simp only [String.append_assoc]
  · rw [hsource, hb]
    delta programText
    simp only [String.append_assoc]
  · rw [String.toList_append, readLiterals_programText]

theorem program_survives_embedding_with_quotes :
    let d : FunctionDeclaration :=
      { name := "f", returnType := "double", arguments := [⟨"double", "x"⟩],
        remembered := some "double f(double x)\r\n\x7b return \"\\\\\"[0] * x; \x7d" }
    let o : GenerationOptions := { headerName := "f.h", guard := "F_H", calls := 10, banner := none }
    ∃ i program code before after rest, Integral.derive d none = .ok i ∧
      generateCode .builtin {} .openCl i o = .ok code ∧
      code.source = before ++ ("static const char *_" ++ i.name ++ "_program_source =") ++ after ∧
      readLiterals [] .nothing after.toList = some ((literalLines program).map String.toList, ';' :: rest) ∧
      (((literalLines program).map String.toList).mapM decoded).map List.flatten =
        some (endedLines program.toList) := by
  intro d o
  obtain ⟨i, hi, hn, hbody⟩ : ∃ i : Integral, Integral.derive d none = .ok i ∧ i.dimensions ≠ 0 ∧
      i.integrand.hasBody {} = true := ⟨_, rfl, by decide, by decide +kernel⟩
  obtain ⟨-, program, code, before, after, rest, -, -, -, hcode, hsource, hread⟩ :=
    program_survives_embedding.2 {} i o hn hbody
  exact ⟨i, program, code, before, after, rest, hi, hcode, hsource, hread,
    (program_survives_embedding.1 program).2⟩

end Quadrature
