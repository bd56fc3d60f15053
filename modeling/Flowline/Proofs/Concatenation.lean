import Mathlib.Algebra.Group.Nat.Even
import Flowline.Proofs.GeneratedLines
import Flowline.Proofs.Marks

/-!
Sources that are compiled one after the other.

Whether a block comment is open, which segment is open, the level of the next line and whether the
last statement was a block end: all this goes from one line of a source to the next. A source that
leaves it as it found it can stand in front of any other. The two together are compiled to the text
of the first and the text of the second, and fail as the second fails.
-/

namespace Flowline

open Text

/-! ### Lines -/

lemma pieces_cons {brk : Char → Bool} {c : Char} {cs : List Char}
    (h : ¬ (c = '\r' ∧ cs.head? = some '\n')) :
    pieces brk (c :: cs) =
      if brk c then [] :: pieces brk cs else (pieces brk cs).modifyHead (c :: ·) := by
  rw [pieces.eq_3]
  rintro ds rfl rfl
  exact h ⟨rfl, rfl⟩

lemma pieces_return {brk : Char → Bool} (hfeed : brk '\n' = true) {cs : List Char}
    (h : cs.head? = some '\n') : pieces brk ('\r' :: cs) = pieces brk cs := by
  obtain ⟨ds, rfl⟩ := List.head?_eq_some_iff.mp h
  simp [pieces, hfeed]

/-- A line feed ends a line, whatever stands before it and after it. -/
lemma pieces_append_newline {brk : Char → Bool} (hfeed : brk '\n' = true) (cs : List Char) :
    ∃ l ls, ∀ ds, pieces brk (cs ++ '\n' :: ds) = (l :: ls) ++ pieces brk ds := by
  induction cs with
  | nil => exact ⟨[], [], fun ds => by simp [pieces, hfeed]⟩
  | cons c cs ih =>
    obtain ⟨l, ls, hls⟩ := ih
    have hhead (ds : List Char) : (cs ++ '\n' :: ds).head? = (cs ++ ['\n']).head? := by
      cases cs <;> rfl
    simp only [List.cons_append]
    by_cases hreturn : c = '\r' ∧ (cs ++ ['\n']).head? = some '\n'
    · -- the break that begins here goes on with the next character
      obtain ⟨rfl, hnext⟩ := hreturn
      refine ⟨l, ls, fun ds => ?_⟩
      rw [pieces_return hfeed (by rw [hhead, hnext]), hls, List.cons_append]
    · have hcons (ds : List Char) : pieces brk (c :: (cs ++ '\n' :: ds)) = _ :=
        pieces_cons (by rwa [hhead])
      by_cases hbrk : brk c = true
      · refine ⟨[], l :: ls, fun ds => ?_⟩
        rw [hcons, if_pos hbrk, hls, List.cons_append]
      · refine ⟨c :: l, ls, fun ds => ?_⟩
        rw [hcons, if_neg hbrk, hls, List.cons_append, List.modifyHead_cons]

/-- The lines after a line feed are those of the text that begins there. -/
lemma sourceLines_append {cs : List Char} (h : cs.getLast? = some '\n') (ds : List Char) :
    sourceLines (cs ++ ds) = sourceLines cs ++ sourceLines ds := by
  obtain ⟨bs, rfl⟩ := List.getLast?_eq_some_iff.mp h
  have hfeed : isLineBreak '\n' = true := by decide
  obtain ⟨l, ls, hls⟩ := pieces_append_newline hfeed bs
  have hne := pieces_ne_nil isLineBreak ds
  have hfirst : sourceLines (bs ++ ['\n']) = l :: ls := by
    have hpieces : pieces isLineBreak (bs ++ ['\n']) = (l :: ls) ++ [[]] := hls []
    simp only [sourceLines, hpieces, List.getLast?_concat, beq_self_eq_true, if_true,
      List.dropLast_concat]
  have hboth : pieces isLineBreak (bs ++ ['\n'] ++ ds) = (l :: ls) ++ pieces isLineBreak ds := by
    rw [List.append_assoc]
    exact hls ds
  rw [hfirst]
  simp only [sourceLines, hboth, List.getLast?_append_of_ne_nil _ hne,
    List.dropLast_append_of_ne_nil hne]
  split_ifs <;> rfl

/-! ### Comments -/

def isFence (line : List Char) : Bool := trim isBlank line == ['~', '~']

def fences (source : String) : Nat := (sourceLines source.toList).countP isFence

lemma readLine_fst (b : Bool) (line : List Char) :
    (readLine isBlank b line).1 = if isFence line then !b else b := by
  unfold readLine isFence
  by_cases hfence : trim isBlank line = ['~', '~']
  · simp [hfence]
  · cases b with
    | true => simp [hfence]
    | false =>
      simp only [hfence, if_false, Bool.false_eq_true, beq_iff_eq]
      split_ifs <;> rfl

lemma foldl_readLine (ls : List (List Char)) (b : Bool) :
    ls.foldl (fun c l => (readLine isBlank c l).1) b =
      (b ^^ decide (¬ Even (ls.countP isFence))) := by
  induction ls generalizing b with
  | nil => simp
  | cons l ls ih =>
    rw [List.foldl_cons, ih, readLine_fst, List.countP_cons]
    split_ifs with hl
    · -- a fence turns both sides around
      by_cases heven : Even (ls.countP isFence)
      · have hodd : ¬ Even (ls.countP isFence + 1) := fun h => Nat.even_add_one.mp h heven
        rw [decide_eq_false (not_not_intro heven), decide_eq_true hodd]
        cases b <;> rfl
      · have hodd : ¬ ¬ Even (ls.countP isFence + 1) := not_not_intro (Nat.even_add_one.mpr heven)
        rw [decide_eq_true heven, decide_eq_false hodd]
        cases b <;> rfl
    · rfl

lemma readSource_append {s₁ : String} (hnewline : s₁.toList.getLast? = some '\n')
    (hfences : Even (fences s₁)) (s₂ : String) :
    readSource (s₁ ++ s₂) = readSource s₁ ++ readSource s₂ := by
  have hclosed : (sourceLines s₁.toList).foldl (fun c l => (readLine isBlank c l).1) false =
      false := by
    have heven : Even ((sourceLines s₁.toList).countP isFence) := hfences
    rw [foldl_readLine, decide_eq_false (not_not_intro heven)]
    rfl
  unfold readSource
  rw [String.toList_append, sourceLines_append hnewline, readLines_append, hclosed]

/-! ### Statements -/

lemma parseTokens_append {ts : List Token} {p₁ : Program Statement} (h : parseTokens ts = .ok p₁)
    (us : List Token) :
    (∀ e, parseTokens us = .error e → parseTokens (ts ++ us) = .error e) ∧
      ∀ p₂, parseTokens us = .ok p₂ →
        ∃ p, parseTokens (ts ++ us) = .ok p ∧ p.statements = p₁.statements ++ p₂.statements := by
  have hts := mapM_statement_of_ok h
  constructor
  · intro e he
    have hboth : (ts ++ us).mapM Token.statement = .error e := by
      rw [List.mapM_append, hts, mapM_statement_of_error he]
      rfl
    rw [parseTokens, hboth]
    rfl
  · intro p₂ hp₂
    have hboth : (ts ++ us).mapM Token.statement = .ok (p₁.statements ++ p₂.statements) := by
      rw [List.mapM_append, hts, mapM_statement_of_ok hp₂]
      rfl
    rcases hp : parseTokens (ts ++ us) with e | p
    · rw [mapM_statement_of_error hp] at hboth
      cases hboth
    · rw [mapM_statement_of_ok hp] at hboth
      exact ⟨p, rfl, Except.ok.inj hboth⟩

lemma parse_eq (source : String) :
    parse source = parseTokens ((readSource source).filterMap Reading.token) :=
  congrArg parseTokens (numberedTokens_map_fst (readSource source))

lemma parse_append {s₁ : String} {p₁ : Program Statement}
    (hnewline : s₁.toList.getLast? = some '\n') (hfences : Even (fences s₁))
    (h : parse s₁ = .ok p₁) (s₂ : String) :
    (∀ e, parse s₂ = .error e → parse (s₁ ++ s₂) = .error e) ∧
      ∀ p₂, parse s₂ = .ok p₂ →
        ∃ p, parse (s₁ ++ s₂) = .ok p ∧ p.statements = p₁.statements ++ p₂.statements := by
  rw [parse_eq] at h
  have happend := parseTokens_append h ((readSource s₂).filterMap Reading.token)
  rw [← List.filterMap_append, ← readSource_append hnewline hfences, ← parse_eq, ← parse_eq]
    at happend
  exact happend

/-! ### Texts -/

def compileSource (source : String) : Except Fault String :=
  match parse source with
  | .error e => .error (.parse e)
  | .ok p => p.compile.code.mapError .emit

lemma compileSource_of_ok {source code : String} {p : Program Statement}
    (hp : parse source = .ok p) (h : p.compile.code = .ok code) :
    compileSource source = .ok code := by
  simp [compileSource, hp, h, Except.mapError]

lemma compileSource_of_error {source : String} {p : Program Statement} {e : EmitError}
    (hp : parse source = .ok p) (h : p.compile.code = .error e) :
    compileSource source = .error (.emit e) := by
  simp [compileSource, hp, h, Except.mapError]

/-- A source that leaves nothing open: it ends with a line feed, its block comments are closed, its
last statement is a line, and the next line would stand at the outermost level. -/
structure Complete (source : String) (p : Program Statement) (code : String) : Prop where
  newline : source.toList.getLast? = some '\n'
  comments : Even (fences source)
  parsed : parse source = .ok p
  compiled : p.compile.code = .ok code
  lastLine : ∃ action args state, p.statements.getLast? = some (.line action args state)
  level : (emitAll {} p.statements).indent.level = 0

lemma code_of_accepted {p : Program Statement} (h : (emitAll {} p.statements).refused = none) :
    p.compile.code = .ok ("\n".intercalate (emitAll {} p.statements).lines) := by
  simp only [Program.compile, h]

lemma code_of_refused {p : Program Statement} {e : EmitError}
    (h : (emitAll {} p.statements).refused = some e) : p.compile.code = .error e := by
  simp only [Program.compile, h]

lemma refused_of_code {p : Program Statement} {code : String} (h : p.compile.code = .ok code) :
    (emitAll {} p.statements).refused = none ∧
      "\n".intercalate (emitAll {} p.statements).lines = code := by
  rcases hrefused : (emitAll {} p.statements).refused with _ | e
  · rw [code_of_accepted hrefused] at h
    exact ⟨rfl, Except.ok.inj h⟩
  · rw [code_of_refused hrefused] at h
    cases h

lemma refused_of_error {p : Program Statement} {e : EmitError} (h : p.compile.code = .error e) :
    (emitAll {} p.statements).refused = some e := by
  rcases hrefused : (emitAll {} p.statements).refused with _ | f
  · rw [code_of_accepted hrefused] at h
    cases h
  · rw [code_of_refused hrefused] at h
    rw [Except.error.inj h]

/-- After a line the compiler no longer knows of a block end. -/
lemma afterEnd_of_lastLine {i : Indent} {ss : List Statement} {a : Action} {args : List String}
    {state : String} (hlast : ss.getLast? = some (.line a args state))
    (h : (emitAll i ss).refused = none) : (emitAll i ss).indent.afterEnd = false := by
  obtain ⟨before, rfl⟩ := List.getLast?_eq_some_iff.mp hlast
  rw [emitAll_append] at h ⊢
  rcases hbefore : (emitAll i before).refused with _ | e
  · simp only [Emission.andThen, hbefore] at h ⊢
    rcases hcode : a.code args with e | text
    · simp [emitAll, Statement.emit, Indent.write, hcode] at h
    · have hline := emits_line (emitAll i before).indent ⟨a, args, state, text, hcode⟩
      exact congrArg (fun e : Emission => e.indent.afterEnd) hline
  · simp [Emission.andThen, hbefore] at h

/-- A complete source is left in the state in which every source is begun. -/
lemma Complete.indent {source code : String} {p : Program Statement}
    (h : Complete source p code) : (emitAll {} p.statements).indent = {} := by
  obtain ⟨a, args, state, hlast⟩ := h.lastLine
  have hafter := afterEnd_of_lastLine hlast (refused_of_code h.compiled).1
  have hlevel := h.level
  rcases hindent : (emitAll {} p.statements).indent with ⟨level, afterEnd⟩
  rw [hindent] at hafter hlevel
  simp only at hafter hlevel
  rw [hafter, hlevel]

lemma Complete.lines_ne_nil {source code : String} {p : Program Statement}
    (h : Complete source p code) : (emitAll {} p.statements).lines ≠ [] := by
  obtain ⟨a, args, state, hlast⟩ := h.lastLine
  obtain ⟨j, rs, hemits, hstatements, -⟩ := exists_rows (refused_of_code h.compiled).1
  have hmem : .line a args state ∈ p.statements.filter Statement.isLine :=
    List.mem_filter.mpr ⟨List.mem_of_getLast? hlast, rfl⟩
  intro hnil
  rw [hemits] at hnil
  rw [← hstatements, List.map_eq_nil_iff.mp hnil] at hmem
  simp at hmem

/-- A parsed source that is compiled to no text has no line: no line of a program is empty. -/
lemma lines_of_empty {source : String} {p : Program Statement} (hp : parse source = .ok p)
    (h : p.compile.code = .ok "") : (emitAll {} p.statements).lines = [] := by
  obtain ⟨hrefused, htext⟩ := refused_of_code h
  obtain ⟨j, rs, hemits, hstatements, -⟩ := exists_rows hrefused
  have htexts := rows_isLineText hp hstatements
  rw [hemits] at htext ⊢
  have hlines := sourceLines_programText htexts
  have hempty : programText rs = "" := htext
  rw [hempty] at hlines
  have hnil : rs = [] := List.map_eq_nil_iff.mp hlines.symm
  rw [hnil]
  rfl

/-- Statements that follow a complete source are compiled as by themselves. -/
lemma Complete.emission {source code : String} {p₁ : Program Statement}
    (h : Complete source p₁ code) (ss : List Statement) :
    (emitAll {} (p₁.statements ++ ss)).refused = (emitAll {} ss).refused ∧
      (emitAll {} (p₁.statements ++ ss)).lines =
        (emitAll {} p₁.statements).lines ++ (emitAll {} ss).lines := by
  rw [emitAll_append, Emission.andThen, (refused_of_code h.compiled).1, h.indent]
  exact ⟨rfl, rfl⟩

section

variable {source code₁ : String} {p₁ p₂ p : Program Statement}

lemma Complete.code_of_error (h : Complete source p₁ code₁)
    (hp : p.statements = p₁.statements ++ p₂.statements) {e : EmitError}
    (he : p₂.compile.code = .error e) : p.compile.code = .error e := by
  obtain ⟨hrefused, -⟩ := h.emission p₂.statements
  rw [← hp, refused_of_error he] at hrefused
  exact code_of_refused hrefused

lemma Complete.code_of_ok (h : Complete source p₁ code₁)
    (hp : p.statements = p₁.statements ++ p₂.statements) {code₂ : String}
    (h₂ : p₂.compile.code = .ok code₂) :
    p.compile.code = .ok ("\n".intercalate
      ((emitAll {} p₁.statements).lines ++ (emitAll {} p₂.statements).lines)) := by
  obtain ⟨hrefused, hlines⟩ := h.emission p₂.statements
  rw [← hp] at hrefused hlines
  rw [(refused_of_code h₂).1] at hrefused
  rw [code_of_accepted hrefused, hlines]

end

/-- **Compiling is compositional**: in front of a source, a complete one adds its text and a line
feed to what that is compiled to, and changes nothing about how that fails. -/
theorem compileSource_append (s₁ s₂ : String) (p₁ : Program Statement) (code₁ : String)
    (h : Complete s₁ p₁ code₁) :
    (∀ code₂, compileSource s₂ = .ok code₂ → code₂ ≠ "" →
        compileSource (s₁ ++ s₂) = .ok (code₁ ++ "\n" ++ code₂)) ∧
      (∀ fault, compileSource s₂ = .error fault → compileSource (s₁ ++ s₂) = .error fault) ∧
      (compileSource s₂ = .ok "" → compileSource (s₁ ++ s₂) = .ok code₁) := by
  obtain ⟨hunread, hread⟩ := parse_append h.newline h.comments h.parsed s₂
  rcases hp₂ : parse s₂ with e | p₂
  · have hboth := hunread e hp₂
    simp [compileSource, hp₂, hboth]
  obtain ⟨p, hp, hstatements⟩ := hread p₂ hp₂
  rcases hcode₂ : p₂.compile.code with e | code₂
  · have hsecond := compileSource_of_error hp₂ hcode₂
    have hall := compileSource_of_error hp (h.code_of_error hstatements hcode₂)
    simp [hsecond, hall]
  · have hsecond := compileSource_of_ok hp₂ hcode₂
    have hall := compileSource_of_ok hp (h.code_of_ok hstatements hcode₂)
    obtain ⟨-, htext₁⟩ := refused_of_code h.compiled
    obtain ⟨-, htext₂⟩ := refused_of_code hcode₂
    rw [hsecond, hall]
    refine ⟨?_, by simp, ?_⟩
    · intro code hcode hne
      obtain rfl := Except.ok.inj hcode
      -- a text that is not empty has a line to put the line feed in front of
      have hlines : (emitAll {} p₂.statements).lines ≠ [] := by
        intro hnil
        rw [hnil] at htext₂
        exact hne htext₂.symm
      rw [String.intercalate_append_of_ne_nil h.lines_ne_nil hlines, htext₁, htext₂]
    · intro hempty
      rw [Except.ok.inj hempty] at hcode₂
      rw [lines_of_empty hp₂ hcode₂, List.append_nil, htext₁]

/-- A choice, closed again, with a comment that hides the beginning of another one. -/
def closedChoice : String := "~~\n若 真:\n~~\n若 真:\r\n> 印 x\n终\n置 y 1 # 完\n"

def closedChoiceProgram : Program Statement :=
  ⟨[[[.line .if_ ["真:"] "~", .line .print ["x"] ">"],
    [.blockEnd "~", .line .set ["y", "1"] "~"]]]⟩

def looseClause : String := "否则:\n空"

def looseClauseProgram : Program Statement := ⟨[[[.line .else_ [] "~", .line .pass [] "~"]]]⟩

def brokenClause : String := "否则:\n置 z\n"

def brokenClauseProgram : Program Statement :=
  ⟨[[[.line .else_ [] "~", .line .set ["z"] "~"]]]⟩

theorem closedChoice_continued :
    Complete closedChoice closedChoiceProgram "if True:\n    print(x)\ny = 1" ∧
      compileSource (closedChoice ++ looseClause) =
        .ok "if True:\n    print(x)\ny = 1\nelse:\n    pass" ∧
      compileSource (closedChoice ++ brokenClause) = .error (.emit .missingValue) := by
  have hcomplete : Complete closedChoice closedChoiceProgram "if True:\n    print(x)\ny = 1" :=
    ⟨by decide, by decide +kernel, by decide +kernel, by decide +kernel,
      ⟨.set, ["y", "1"], "~", rfl⟩, by decide +kernel⟩
  have hclause : compileSource looseClause = .ok "else:\n    pass" :=
    compileSource_of_ok (p := looseClauseProgram) (by decide +kernel) (by decide +kernel)
  have hbroken : compileSource brokenClause = .error (.emit .missingValue) :=
    compileSource_of_error (p := brokenClauseProgram) (by decide +kernel) (by decide +kernel)
  have hafter := compileSource_append closedChoice looseClause _ _ hcomplete
  have hfails := compileSource_append closedChoice brokenClause _ _ hcomplete
  exact ⟨hcomplete, hafter.1 _ hclause (by decide), hfails.2.1 _ hbroken⟩

end Flowline
