import Quadrature.Proofs.Lexemes
import Quadrature.Proofs.Masking

/-! What directive lines mean to a preprocessor, and when masking reads them in the same way: the name
of a directive is the identifier behind its `#`, and its condition is a list of words and parentheses. -/

namespace Quadrature.Text

lemma wordsOf_cons (c : Char) (cs w : List Char) :
    wordsOf (c :: cs) w =
      if isBlank c then (if w = [] then wordsOf cs [] else w.reverse :: wordsOf cs [])
      else wordsOf cs (c :: w) := by
  rw [wordsOf.eq_def]
  cases w <;> simp only [reduceCtorEq, if_true, if_false]

lemma flatten_wordsOf (cs w : List Char) :
    (wordsOf cs w).flatten = w.reverse ++ cs.filter (fun c => !isBlank c) := by
  induction cs generalizing w with
  | nil =>
    rw [wordsOf.eq_def]
    cases w with
    | nil => rfl
    | cons c w => simp
  | cons c cs ih =>
    rw [wordsOf_cons, List.filter_cons]
    by_cases hc : isBlank c = true
    · by_cases hw : w = []
      · rw [if_pos hc, if_pos hw, ih, hw, if_neg (by simp [hc])]
      · rw [if_pos hc, if_neg hw, List.flatten_cons, ih, if_neg (by simp [hc]), List.reverse_nil,
          List.nil_append]
    · rw [if_neg hc, ih, if_pos (by simp [hc]), List.reverse_cons, List.append_assoc,
        List.singleton_append]

end Quadrature.Text

namespace Quadrature.C.Guard

open Text

/-- The conditions of conditionals: one that holds for C++ only, one that holds for C only, and one
that may hold or not. -/
inductive Condition where
  | cplusplus | notCplusplus | free
  deriving DecidableEq

inductive LineKind where
  | text
  | inert
  | opening (condition : Condition)
  | elseIf
  | otherwise
  | closing
  deriving DecidableEq

def afterHash (body : List Char) : List Char :=
  ((body.dropWhile isBlank).drop 1).dropWhile isBlank

def directiveName (body : List Char) : List Char :=
  (afterHash body).take (Lexeme.identifier (afterHash body))

def directiveArgument (body : List Char) : List Char :=
  (afterHash body).drop (Lexeme.identifier (afterHash body))

def conditionWords (cs : List Char) : List String :=
  (wordsOf (cs.flatMap fun c => if c = '(' ∨ c = ')' then [' ', c, ' '] else [c]) []).map String.ofList

def testsName (cs : List Char) : Bool := conditionWords cs = ["__cplusplus"]

def testsDefined (cs : List Char) : Bool :=
  testsName cs || conditionWords cs = ["defined", "(", "__cplusplus", ")"] ||
    conditionWords cs = ["defined", "__cplusplus"]

/-- The kind of a directive by its name: `bare` says whether its argument is `__cplusplus` alone, and
`tested` whether it is the condition of a test for C++. -/
def namedKind (name : String) (bare tested : Bool) : LineKind :=
  match name with
  | "ifdef" => .opening (if bare then .cplusplus else .free)
  | "ifndef" => .opening (if bare then .notCplusplus else .free)
  | "if" => .opening (if tested then .cplusplus else .free)
  | "elif" | "elifdef" | "elifndef" => .elseIf
  | "else" => .otherwise
  | "endif" => .closing
  | _ => .inert

def directiveKind (body : List Char) : LineKind :=
  namedKind (String.ofList (directiveName body)) (testsName (directiveArgument body))
    (testsDefined (directiveArgument body))

def recognisedKind (body : List Char) : LineKind :=
  let condition := String.ofList ((directiveArgument body).filter (fun c => !isBlank c))
  namedKind (String.ofList (directiveName body)) (condition == "__cplusplus") (isTest condition)

def conditionalNames : List String :=
  ["ifdef", "ifndef", "if", "elif", "elifdef", "elifndef", "else", "endif"]

structure SpacedDirective (body : List Char) : Prop where
  single : ((body.dropWhile isBlank).drop 1).head? ≠ some '#'
  delimited : String.ofList (directiveName body) ∈ conditionalNames →
    Lexeme.Delimited (directiveArgument body)

instance : DecidablePred SpacedDirective := fun body =>
  decidable_of_iff
    (((body.dropWhile isBlank).drop 1).head? ≠ some '#' ∧
      (String.ofList (directiveName body) ∈ conditionalNames →
        Lexeme.Delimited (directiveArgument body)))
    ⟨fun h => ⟨h.1, h.2⟩, fun h => ⟨h.single, h.delimited⟩⟩

/-- No test of `__cplusplus` appears only when the blanks of the condition are left out. -/
structure PlainDirective (body : List Char) : Prop extends SpacedDirective body where
  condition :
    let condition := String.ofList ((directiveArgument body).filter (fun c => !isBlank c))
    (condition = "__cplusplus" → testsName (directiveArgument body)) ∧
      (isTest condition → testsDefined (directiveArgument body))

instance : DecidablePred PlainDirective := fun body =>
  decidable_of_iff
    (SpacedDirective body ∧
      (String.ofList ((directiveArgument body).filter (fun c => !isBlank c)) = "__cplusplus" →
        testsName (directiveArgument body)) ∧
      (isTest (String.ofList ((directiveArgument body).filter (fun c => !isBlank c))) →
        testsDefined (directiveArgument body)))
    ⟨fun h => ⟨h.1, h.2⟩, fun h => ⟨h.toSpacedDirective, h.condition⟩⟩

def advance (branches : List Branch) : LineKind → List Branch
  | .opening .cplusplus => ⟨true, true⟩ :: branches
  | .opening .notCplusplus => ⟨true, false⟩ :: branches
  | .opening .free => ⟨false, false⟩ :: branches
  | .otherwise =>
    match branches with
    | ⟨true, excluded⟩ :: rest => ⟨true, !excluded⟩ :: rest
    | _ => branches
  | .elseIf =>
    match branches with
    | ⟨true, _⟩ :: rest => ⟨true, false⟩ :: rest
    | _ => branches
  | .closing => branches.tail
  | .text | .inert => branches

lemma join_conditionWords (cs : List Char) :
    String.join (conditionWords cs) = String.ofList (cs.filter (fun c => !isBlank c)) := by
  have hf : (cs.flatMap fun c => if c = '(' ∨ c = ')' then [' ', c, ' '] else [c]).filter
      (fun c => !isBlank c) = cs.filter (fun c => !isBlank c) := by
    induction cs with
    | nil => rfl
    | cons c cs ih =>
      rw [List.flatMap_cons, List.filter_append, ih]
      by_cases hc : c = '(' ∨ c = ')'
      · rcases hc with rfl | rfl <;> rfl
      · rw [if_neg hc, List.filter_cons, List.filter_cons]
        split <;> rfl
  have hw := flatten_wordsOf (cs.flatMap fun c => if c = '(' ∨ c = ')' then [' ', c, ' '] else [c]) []
  rw [hf, List.reverse_nil, List.nil_append] at hw
  rw [← String.toList_inj, String.toList_join, String.toList_ofList, ← hw, conditionWords,
    List.flatMap_map]
  simp only [String.toList_ofList, List.flatMap_id']

lemma condition_of_testsName {cs : List Char} (h : testsName cs = true) :
    String.ofList (cs.filter (fun c => !isBlank c)) = "__cplusplus" := by
  rw [← join_conditionWords, of_decide_eq_true h]
  decide +kernel

lemma isTest_of_testsDefined {cs : List Char} (h : testsDefined cs = true) :
    isTest (String.ofList (cs.filter (fun c => !isBlank c))) = true := by
  simp only [testsDefined, Bool.or_eq_true, decide_eq_true_eq] at h
  rcases h with (h | h) | h
  · rw [condition_of_testsName h]
    decide +kernel
  · rw [← join_conditionWords, h]
    decide +kernel
  · rw [← join_conditionWords, h]
    decide +kernel

lemma conditionalNames_letters : ∀ w ∈ conditionalNames,
    (w.toList.head?.any isXidStart && w.toList.all fun c =>
      isXidContinue c && c != '\\' && !(isBlank c || c == '(')) = true := by
  decide +kernel

lemma identifier_conditionalName {w : String} {cs : List Char} (hw : w ∈ conditionalNames)
    (h : Lexeme.Delimited cs) : Lexeme.identifier (w.toList ++ cs) = w.toList.length := by
  have hl := conditionalNames_letters w hw
  rw [Bool.and_eq_true, List.all_eq_true] at hl
  cases hc : w.toList with
  | nil => simp [hc] at hl
  | cons c ds =>
    rw [hc] at hl
    have hall : ∀ d ∈ c :: ds, isXidContinue d = true ∧ d ≠ '\\' := by
      intro d hd
      have hh := hl.2 d hd
      simp only [Bool.and_eq_true, bne_iff_ne] at hh
      exact hh.1
    exact Lexeme.identifier_append (by simpa using hl.1) (hall c List.mem_cons_self).2
      (fun d hd => hall d (List.mem_cons_of_mem c hd)) h

lemma takeWhile_conditionalName {w : String} {cs : List Char} (hw : w ∈ conditionalNames)
    (h : Lexeme.Delimited cs) :
    (w.toList ++ cs).takeWhile (fun c => !(isBlank c || c == '(')) = w.toList ∧
      (w.toList ++ cs).dropWhile (fun c => !(isBlank c || c == '(')) = cs := by
  have hl := conditionalNames_letters w hw
  rw [Bool.and_eq_true, List.all_eq_true] at hl
  have hp : ∀ c ∈ w.toList, (!(isBlank c || c == '(')) = true := by
    intro c hc
    have hh := hl.2 c hc
    rw [Bool.and_eq_true] at hh
    exact hh.2
  have ht : cs.takeWhile (fun c => !(isBlank c || c == '(')) = [] ∧
      cs.dropWhile (fun c => !(isBlank c || c == '(')) = cs := by
    cases cs with
    | nil => exact ⟨rfl, rfl⟩
    | cons c cs =>
      have hc : (isBlank c || c == '(') = true := by simpa using h c rfl
      rw [List.takeWhile_cons, List.dropWhile_cons, hc]
      exact ⟨rfl, rfl⟩
  rw [List.takeWhile_append_of_pos hp, List.dropWhile_append_of_pos hp, ht.1, ht.2, List.append_nil]
  exact ⟨rfl, rfl⟩

lemma directive_eq {body : List Char} (hh : (body.dropWhile isBlank).head? = some '#')
    (hs : ((body.dropWhile isBlank).drop 1).head? ≠ some '#') :
    directive body =
      (String.ofList ((afterHash body).takeWhile (fun c => !(isBlank c || c == '('))),
        String.ofList (((afterHash body).dropWhile (fun c => !(isBlank c || c == '('))).filter
          (fun c => !isBlank c))) := by
  have hd : (body.dropWhile isBlank).dropWhile (· == '#') = (body.dropWhile isBlank).drop 1 := by
    cases hb : body.dropWhile isBlank with
    | nil => simp [hb] at hh
    | cons c cs =>
      rw [hb] at hh hs
      obtain rfl : c = '#' := by simpa using hh
      rw [List.dropWhile_cons, if_pos (by rfl), List.drop_succ_cons, List.drop_zero]
      cases cs with
      | nil => rfl
      | cons d cs =>
        have hne : (d == '#') = false := by simpa using hs
        rw [List.dropWhile_cons, hne, if_neg (by simp)]
  rw [directive, hd]
  rfl

lemma track_of_not_mem {body : List Char} (h : (directive body).1 ∉ conditionalNames)
    (branches : List Branch) : track branches body = branches := by
  simp only [conditionalNames, List.mem_cons, List.not_mem_nil, or_false, not_or] at h
  unfold track
  split
  all_goals simp_all

lemma namedKind_of_not_mem {name : String} (h : name ∉ conditionalNames) (bare tested : Bool) :
    namedKind name bare tested = .inert := by
  simp only [conditionalNames, List.mem_cons, List.not_mem_nil, or_false, not_or] at h
  unfold namedKind
  split
  all_goals simp_all

lemma track_of_mem {body : List Char} {name condition : String} (hn : name ∈ conditionalNames)
    (hd : directive body = (name, condition)) (branches : List Branch) :
    track branches body =
      advance branches (namedKind name (condition == "__cplusplus") (isTest condition)) := by
  unfold track namedKind
  rw [hd]
  dsimp only
  generalize (condition == "__cplusplus") = bare
  generalize isTest condition = tested
  simp only [conditionalNames, List.mem_cons, List.not_mem_nil, or_false] at hn
  rcases hn with rfl | rfl | rfl | rfl | rfl | rfl | rfl | rfl
  · cases bare <;> rfl
  · cases bare <;> rfl
  · cases tested <;> rfl
  all_goals rfl

lemma name_append_argument (body : List Char) :
    directiveName body ++ directiveArgument body = afterHash body :=
  List.take_append_drop _ _

lemma SpacedDirective.directive_eq_name {body : List Char} (h : SpacedDirective body)
    (hh : (body.dropWhile isBlank).head? = some '#')
    (hn : String.ofList (directiveName body) ∈ conditionalNames) :
    directive body = (String.ofList (directiveName body),
      String.ofList ((directiveArgument body).filter (fun c => !isBlank c))) := by
  have hw := takeWhile_conditionalName hn (h.delimited hn)
  rw [String.toList_ofList, name_append_argument] at hw
  rw [directive_eq hh h.single, hw.1, hw.2]

lemma SpacedDirective.name_of_directive {body : List Char} (h : SpacedDirective body)
    (hh : (body.dropWhile isBlank).head? = some '#') (hw : (directive body).1 ∈ conditionalNames) :
    String.ofList (directiveName body) = (directive body).1 := by
  have hd := directive_eq hh h.single
  have hr : Lexeme.Delimited ((afterHash body).dropWhile (fun c => !(isBlank c || c == '('))) := by
    intro c hc
    have hp := List.head?_dropWhile_not (fun c => !(isBlank c || c == '(')) (afterHash body)
    simpa only [Option.mem_def.mp hc, Bool.not_eq_false', Bool.or_eq_true, beq_iff_eq] using hp
  have hi := identifier_conditionalName hw hr
  rw [hd, String.toList_ofList, List.takeWhile_append_dropWhile] at hi
  have hp : (afterHash body).takeWhile (fun c => !(isBlank c || c == '(')) <+: afterHash body :=
    List.takeWhile_prefix _
  rw [directiveName, hi, hd, ← List.prefix_iff_eq_take.mp hp]

lemma SpacedDirective.track_eq {body : List Char} (h : SpacedDirective body)
    (hh : (body.dropWhile isBlank).head? = some '#') (branches : List Branch) :
    track branches body = advance branches (recognisedKind body) := by
  -- outside of the names of conditionals the word may differ from the name, but neither counts
  by_cases hn : String.ofList (directiveName body) ∈ conditionalNames
  · exact track_of_mem hn (h.directive_eq_name hh hn) branches
  · have hw : (directive body).1 ∉ conditionalNames :=
      fun hw => hn (h.name_of_directive hh hw ▸ hw)
    rw [track_of_not_mem hw, recognisedKind, namedKind_of_not_mem hn, advance]

lemma PlainDirective.recognisedKind_eq {body : List Char} (h : PlainDirective body) :
    recognisedKind body = directiveKind body := by
  have hn : (String.ofList ((directiveArgument body).filter (fun c => !isBlank c)) == "__cplusplus") =
      testsName (directiveArgument body) := by
    rw [Bool.eq_iff_iff, beq_iff_eq]
    exact ⟨h.condition.1, condition_of_testsName⟩
  have hd : isTest (String.ofList ((directiveArgument body).filter (fun c => !isBlank c))) =
      testsDefined (directiveArgument body) := by
    rw [Bool.eq_iff_iff]
    exact ⟨h.condition.2, isTest_of_testsDefined⟩
  rw [recognisedKind, hn, hd]
  rfl

def Role.lineKind (kind : List Char → LineKind) (line : List Char) : Role → LineKind
  | .text => .text
  | .directive => kind (body line)
  | .continuation => .inert

def lineKinds (continued : Bool) (ls : List (List Char)) : List LineKind :=
  List.zipWith (fun role line => role.lineKind directiveKind line) (roles continued ls) ls

def recognisedKinds (continued : Bool) (ls : List (List Char)) : List LineKind :=
  List.zipWith (fun role line => role.lineKind recognisedKind line) (roles continued ls) ls

def PlainLines (continued : Bool) (ls : List (List Char)) : Prop :=
  ∀ p ∈ (roles continued ls).zip ls, p.1 = .directive → PlainDirective (body p.2)

instance (continued : Bool) (ls : List (List Char)) : Decidable (PlainLines continued ls) :=
  inferInstanceAs (Decidable (∀ p ∈ (roles continued ls).zip ls, _ → _))

def SpacedLines (continued : Bool) (ls : List (List Char)) : Prop :=
  ∀ p ∈ (roles continued ls).zip ls, p.1 = .directive → SpacedDirective (body p.2)

instance (continued : Bool) (ls : List (List Char)) : Decidable (SpacedLines continued ls) :=
  inferInstanceAs (Decidable (∀ p ∈ (roles continued ls).zip ls, _ → _))

lemma PlainLines.spaced {continued : Bool} {ls : List (List Char)} (h : PlainLines continued ls) :
    SpacedLines continued ls :=
  fun p hp hd => (h p hp hd).toSpacedDirective

lemma PlainLines.recognisedKinds_eq {continued : Bool} {ls : List (List Char)}
    (h : PlainLines continued ls) : recognisedKinds continued ls = lineKinds continued ls := by
  rw [recognisedKinds, lineKinds, ← List.map_uncurry_zip_eq_zipWith, ← List.map_uncurry_zip_eq_zipWith]
  refine List.map_congr_left fun p hp => ?_
  rcases p with ⟨role, line⟩
  cases role with
  | text => rfl
  | directive => exact (h _ hp rfl).recognisedKind_eq
  | continuation => rfl

def decisions (branches : List Branch) : List LineKind → List Bool
  | [] => []
  | k :: ks => (k = .text && branches.any Branch.excluded) :: decisions (advance branches k) ks

lemma roleOf_eq_directive {continued : Bool} {line : List Char} :
    roleOf continued line = .directive ↔ continued = false ∧ startsDirective line = true := by
  cases continued <;> cases h : startsDirective line <;> simp [roleOf, h]

lemma roleOf_eq_continuation {continued : Bool} {line : List Char} :
    roleOf continued line = .continuation ↔ continued = true := by
  cases continued <;> cases h : startsDirective line <;> simp [roleOf, h]

lemma State.next_branches {st : State} {line : List Char}
    (h : roleOf st.continued line = .directive → SpacedDirective (body line)) :
    (st.next line).branches =
      advance st.branches ((roleOf st.continued line).lineKind recognisedKind line) := by
  unfold State.next
  rw [st.isDirective_eq line]
  cases hr : roleOf st.continued line with
  | text => rfl
  | directive =>
    obtain ⟨hc, hs⟩ := roleOf_eq_directive.mp hr
    rw [if_pos (by simp), hc, if_neg (by simp), Role.lineKind]
    exact (h hr).track_eq (beq_iff_eq.mp hs) st.branches
  | continuation =>
    rw [if_pos (by simp), roleOf_eq_continuation.mp hr, if_pos rfl, Role.lineKind, advance]

lemma recognisedKind_ne_text (body : List Char) : recognisedKind body ≠ .text := by
  unfold recognisedKind namedKind
  split
  all_goals simp

lemma Role.lineKind_eq_text {role : Role} {line : List Char} :
    role.lineKind recognisedKind line = .text ↔ role = .text := by
  cases role with
  | text => simp [Role.lineKind]
  | directive => simp [Role.lineKind, recognisedKind_ne_text]
  | continuation => simp [Role.lineKind]

lemma State.blanks_eq (st : State) (line : List Char) :
    (!st.isDirective line && st.excludes) =
      (decide ((roleOf st.continued line).lineKind recognisedKind line = .text) &&
        st.branches.any Branch.excluded) := by
  rw [st.isDirective_eq line]
  simp only [Role.lineKind_eq_text]
  cases roleOf st.continued line <;> rfl

lemma blankedLines_eq {ls : List (List Char)} {st : State} (h : SpacedLines st.continued ls) :
    blankedLines st ls = decisions st.branches (recognisedKinds st.continued ls) := by
  induction ls generalizing st with
  | nil => rfl
  | cons line rest ih =>
    have hh : SpacedLines (st.next line).continued rest := by
      intro p hp
      rw [st.next_continued line] at hp
      exact h p (List.mem_cons_of_mem _ hp)
    have hb := State.next_branches (h (roleOf st.continued line, line) List.mem_cons_self)
    rw [blankedLines, st.blanks_eq line, ih hh, hb, st.next_continued line]
    rfl

end Quadrature.C.Guard
