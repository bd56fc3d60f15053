import Flowline.CommandLine
import Flowline.Proofs.Grammar
import Flowline.Proofs.LooseTrees

/-!
Marks do not change what a program means.

The mark of a line decides where a segment ends and is kept in the tree, and that is all. Taking the
marks off the statements of a program changes neither the text that it is compiled to nor its flow
nor the pipeline that fits it, and what is left without the marks is settled by the words of the
tokens.
-/

namespace Flowline

/-- The words are the same; the marks may differ, but both are marks. -/
structure Token.SameWords (t u : Token) : Prop where
  action : t.action = u.action
  args : t.args = u.args
  marked : t.state ∈ lineStates
  marked' : u.state ∈ lineStates

namespace Statement

def unmarked : Statement → Statement
  | line action args _ => line action args "~"
  | block name _ => block name "~"
  | blockEnd _ => blockEnd "~"
  | arrow source target direction _ => arrow source target direction "~"

lemma emit_unmarked (i : Indent) (s : Statement) : s.unmarked.emit i = s.emit i := by
  cases s <;> rfl

lemma intents_unmarked (lex : Lexicon) (s : Statement) :
    s.unmarked.intents lex = s.intents lex := by
  cases s <;> rfl

lemma isArrow_unmarked (s : Statement) :
    CommandLine.isArrow s.unmarked = CommandLine.isArrow s := by
  cases s <;> rfl

lemma isLine_unmarked (s : Statement) :
    CommandLine.isLine s.unmarked = CommandLine.isLine s := by
  cases s <;> rfl

end Statement

lemma emitAll_unmarked (i : Indent) (ss : List Statement) :
    emitAll i (ss.map Statement.unmarked) = emitAll i ss := by
  induction ss generalizing i with
  | nil => rfl
  | cons s ss ih => simp only [List.map_cons, emitAll, Statement.emit_unmarked, ih]

/-! ### Programs with the same statements up to marks -/

/-- The two programs cannot be told apart by what comes of them. -/
structure SameMeaning (p q : Program Statement) : Prop where
  /-- They are compiled to the same text, or refused for the same reason. -/
  code : p.compile.code = q.compile.code
  /-- So are their trees, when these come as data and are compiled node by node. -/
  looseCode : (Loose.compile (p.toDatum Statement.toDatum)).2 =
    (Loose.compile (q.toDatum Statement.toDatum)).2
  flow : ∀ lex, p.flow lex = q.flow lex
  pipeline : CommandLine.pipeline? "auto" p = CommandLine.pipeline? "auto" q

lemma compile_code_congr {p q : Program Statement}
    (h : p.statements.map Statement.unmarked = q.statements.map Statement.unmarked) :
    p.compile.code = q.compile.code := by
  have hrun : emitAll {} p.statements = emitAll {} q.statements := by
    rw [← emitAll_unmarked, h, emitAll_unmarked]
  simp only [Program.compile, hrun]

lemma flow_congr {p q : Program Statement}
    (h : p.statements.map Statement.unmarked = q.statements.map Statement.unmarked)
    (lex : Lexicon) : p.flow lex = q.flow lex := by
  have hflow (ss : List Statement) :
      (ss.map Statement.unmarked).flatMap (Statement.intents lex) =
        ss.flatMap (Statement.intents lex) := by
    simp only [List.flatMap_map, Statement.intents_unmarked]
  rw [Program.flow, ← hflow, h, hflow, Program.flow]

lemma fitting_congr {p q : Program Statement}
    (h : p.statements.map Statement.unmarked = q.statements.map Statement.unmarked) :
    CommandLine.fitting p = CommandLine.fitting q := by
  have harrow (ss : List Statement) :
      (ss.map Statement.unmarked).any CommandLine.isArrow = ss.any CommandLine.isArrow := by
    simp only [List.any_map, Function.comp_def, Statement.isArrow_unmarked]
  have hline (ss : List Statement) :
      (ss.map Statement.unmarked).any CommandLine.isLine = ss.any CommandLine.isLine := by
    simp only [List.any_map, Function.comp_def, Statement.isLine_unmarked]
  rw [CommandLine.fitting, ← harrow, ← hline, h, harrow, hline, CommandLine.fitting]

lemma sameMeaning_of_unmarked {p q : Program Statement}
    (h : p.statements.map Statement.unmarked = q.statements.map Statement.unmarked) :
    SameMeaning p q where
  code := compile_code_congr h
  looseCode := by rw [Loose.compile_toDatum, Loose.compile_toDatum, compile_code_congr h]
  flow := flow_congr h
  pipeline := by simp only [CommandLine.pipeline?, fitting_congr h]

/-! ### Tokens with the same words -/

/-- Without its mark, the statement of a token is settled by its words. -/
lemma Token.SameWords.statement {t u : Token} (h : t.SameWords u) :
    t.statement.map Statement.unmarked = u.statement.map Statement.unmarked := by
  obtain ⟨action, args, state⟩ := t
  obtain ⟨action', args', state'⟩ := u
  obtain ⟨rfl, rfl, hs, hs'⟩ := h
  have hmark : isLineState state = true := by simpa [isLineState] using hs
  have hmark' : isLineState state' = true := by simpa [isLineState] using hs'
  unfold Token.statement
  simp only [hmark, hmark', Bool.not_true, Bool.false_eq_true, if_false]
  by_cases hend : isBlockEnd action = true
  · rw [if_pos hend, if_pos hend]
    rfl
  rw [if_neg hend, if_neg hend]
  rcases Token.colonName? action with _ | name
  · rcases Token.arrow? args with _ | ⟨_ | _, _ | word⟩
    · rcases Action.ofWord? action with _ | a <;> rfl
    all_goals rfl
  · simp only
    rcases Token.colonAction? name with _ | a <;> rfl

lemma mapM_statement_sameWords {ts us : List Token} (h : List.Forall₂ Token.SameWords ts us) :
    (ts.mapM Token.statement).map (·.map Statement.unmarked) =
      (us.mapM Token.statement).map (·.map Statement.unmarked) := by
  induction h with
  | nil => rfl
  | @cons t u ts us htu hall ih =>
    have hhead := htu.statement
    rw [List.mapM_cons, List.mapM_cons]
    rcases ht : t.statement with e | s <;> rcases hu : u.statement with f | s' <;>
      rw [ht, hu] at hhead
    · exact congrArg Except.error (Except.error.inj hhead)
    · cases hhead
    · cases hhead
    · have hs : s.unmarked = s'.unmarked := Except.ok.inj hhead
      rcases hts : ts.mapM Token.statement with e | ss <;>
        rcases hus : us.mapM Token.statement with f | ss' <;> rw [hts, hus] at ih
      · exact congrArg Except.error (Except.error.inj ih)
      · cases ih
      · cases ih
      · have hss : ss.map Statement.unmarked = ss'.map Statement.unmarked := Except.ok.inj ih
        simp only [bind, Except.bind, pure, Except.pure, Except.map, List.map_cons, hs, hss]

lemma mapM_statement_of_ok {ts : List Token} {p : Program Statement} (h : parseTokens ts = .ok p) :
    ts.mapM Token.statement = .ok p.statements := by
  obtain ⟨ss, hss, hall⟩ | ⟨e, before, t, after, he, -⟩ := mapM_spec Token.statement ts
  · obtain rfl : Program.ofFlagged (ss.zip (ts.map Token.endsSegment)) = p := by
      rw [parseTokens, hss] at h
      exact Except.ok.inj h
    have hlen : ss.length ≤ (ts.map Token.endsSegment).length := by
      rw [List.length_map, hall.length_eq]
    rw [Program.statements_ofFlagged, List.map_fst_zip hlen, hss]
  · rw [parseTokens, he] at h
    cases h

lemma mapM_statement_of_error {ts : List Token} {e : ParseError} (h : parseTokens ts = .error e) :
    ts.mapM Token.statement = .error e := by
  rcases hss : ts.mapM Token.statement with f | ss
  · rw [parseTokens, hss] at h
    exact congrArg Except.error (Except.error.inj h)
  · rw [parseTokens, hss] at h
    cases h

/-- **Marks do not change meaning**: two lists of tokens that differ in their marks alone are both
refused, for the same reason, or give programs with the same meaning. -/
theorem parseTokens_sameWords (ts us : List Token) (h : List.Forall₂ Token.SameWords ts us) :
    match parseTokens ts, parseTokens us with
    | .ok p, .ok q => SameMeaning p q
    | .error e, .error f => e = f
    | _, _ => False := by
  have hstatements := mapM_statement_sameWords h
  rcases hp : parseTokens ts with e | p <;> rcases hq : parseTokens us with f | q
  · rw [mapM_statement_of_error hp, mapM_statement_of_error hq] at hstatements
    exact Except.error.inj hstatements
  · rw [mapM_statement_of_error hp, mapM_statement_of_ok hq] at hstatements
    cases hstatements
  · rw [mapM_statement_of_ok hp, mapM_statement_of_error hq] at hstatements
    cases hstatements
  · rw [mapM_statement_of_ok hp, mapM_statement_of_ok hq] at hstatements
    exact sameMeaning_of_unmarked (Except.ok.inj hstatements)

def advancing : List Token :=
  [⟨"若", ["x:"], ">"⟩, ⟨"印", ["x"], ">"⟩, ⟨"否则", [], ">"⟩, ⟨"印", ["y"], ">"⟩, ⟨"终", [], ">"⟩]

def continuing : List Token :=
  [⟨"若", ["x:"], "~"⟩, ⟨"印", ["x"], "!"⟩, ⟨"否则", [], "?"⟩, ⟨"印", ["y"], "<"⟩, ⟨"终", [], "~"⟩]

def advancingProgram : Program Statement :=
  ⟨[[[.line .if_ ["x:"] ">"], [.line .print ["x"] ">"], [.line .else_ [] ">"],
    [.line .print ["y"] ">"], [.blockEnd ">"]]]⟩

def continuingProgram : Program Statement :=
  ⟨[[[.line .if_ ["x:"] "~", .line .print ["x"] "!", .line .else_ [] "?",
    .line .print ["y"] "<", .blockEnd "~"]]]⟩

/-- Five segments and one, but one meaning. -/
theorem advancing_continuing :
    List.Forall₂ Token.SameWords advancing continuing ∧
      parseTokens advancing = .ok advancingProgram ∧
      parseTokens continuing = .ok continuingProgram ∧
      advancingProgram.compile.code = .ok "if x:\n    print(x)\nelse:\n    print(y)" ∧
      SameMeaning advancingProgram continuingProgram := by
  have h : List.Forall₂ Token.SameWords advancing continuing := by
    repeat' constructor
  have hp : parseTokens advancing = .ok advancingProgram := by decide +kernel
  have hq : parseTokens continuing = .ok continuingProgram := by decide +kernel
  have hmeaning := parseTokens_sameWords advancing continuing h
  rw [hp, hq] at hmeaning
  exact ⟨h, hp, hq, by decide +kernel, hmeaning⟩

end Flowline
