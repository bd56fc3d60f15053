import Mathlib.Tactic.Lemma
import Flowline.Proofs.LooseTokens
import Flowline.Proofs.LooseTrees

/-!
Lines whose arguments do not fit.

`Unfit` says in which ways the arguments of a line fail its action, and what is said of each, in
terms of the words on the line alone. A tree that was read from a source is compiled unless one of
its lines is unfit, and then the first of them is told. Nothing else stops the compiler: such a tree
has the shape that it asks for everywhere.
-/

namespace Flowline

def arithmeticActions : List Action := [.add, .sub, .mul, .div]

/-- Arguments that assign nothing, and what is said of them. -/
inductive BadAssignment : List String → String → Prop
  | short {args : List String} (h : args.length < 2) :
      BadAssignment args "SET expects at least 2 arguments: variable value"
  | noName {name word : String} {rest : List String} (hname : isName name = false) :
      BadAssignment (name :: word :: rest) ("Invalid variable name: " ++ name)
  | oneOperand {name word x : String} {op : Action} (hname : isName name = true)
      (hop : op ∈ arithmeticActions) (hword : op.IsForm word) :
      BadAssignment [name, word, x]
        (op.id ++ " in SET expects 4 args: 置 result " ++ op.words.2 ++ " left right")
  | manyOperands {name word : String} {rest : List String} {op : Action}
      (hname : isName name = true) (hop : op ∈ arithmeticActions) (hword : op.IsForm word)
      (h : 3 ≤ rest.length) :
      BadAssignment (name :: word :: rest)
        (op.id ++ " in SET expects: 置 result " ++ op.words.2 ++ " left right")

/-- Arguments that compute nothing, and what is said of them. -/
inductive BadArithmetic : List String → String → Prop
  | count {args : List String} (h : args.length ≠ 3) :
      BadArithmetic args "Arithmetic operation expects 3 arguments: result left right"
  | noName {name left right : String} (hname : isName name = false) :
      BadArithmetic [name, left, right] ("Invalid result variable: " ++ name)

/-- The arguments do not fit the action, and what is said of it. -/
def Action.Unfit (a : Action) (args : List String) (said : String) : Prop :=
  match a with
  | .define => args = [] ∧ said = "DEF expects at least a function name"
  | .call => args = [] ∧ said = "CALL expects at least a function name"
  | .if_ => args = [] ∧ said = "IF expects a condition"
  | .elif => args = [] ∧ said = "ELIF expects a condition"
  | .while_ => args = [] ∧ said = "WHILE expects a condition"
  | .for_ => args.length < 3 ∧ said = "FOR expects: variable in iterable"
  | .set => BadAssignment args said
  | .add | .sub | .mul | .div => BadArithmetic args said
  | .print | .giveBack | .else_ | .break_ | .continue_ | .try_ | .except | .finally_ | .pass =>
    False

def Statement.Unfit : Statement → String → Prop
  | .line a args _, said => a.Unfit args said
  | _, _ => False

/-- There is a line that does not fit, and `said` is said of the first of them. -/
def FirstUnfit (ss : List Statement) (said : String) : Prop :=
  ∃ before s after, ss = before ++ s :: after ∧ (∀ t ∈ before, ∀ other, ¬ t.Unfit other) ∧
    s.Unfit said

def EmitError.onShape : EmitError → Bool
  | notProgram | notFlow | notSegment | notLine | unknownStatement _ | unhandledAction _ => true
  | _ => false

/-! ### One line -/

lemma operation?_eq_some_iff {word : String} {op : Action} :
    operation? word = some op ↔ op ∈ arithmeticActions ∧ op.IsForm word := by
  constructor
  · intro h
    have hform := List.find?_some h
    simp only [Bool.or_eq_true, beq_iff_eq] at hform
    exact ⟨List.mem_of_find?_eq_some h, hform.imp Eq.symm Eq.symm⟩
  · rintro ⟨hop, hword⟩
    simp only [arithmeticActions, List.mem_cons, List.not_mem_nil, or_false] at hop
    rcases hop with rfl | rfl | rfl | rfl <;> rcases hword with rfl | rfl <;> decide

/-- The outcome for a line says of its arguments what is to be said of them, if anything. -/
def Tells (unfit : String → Prop) : Except EmitError String → Prop
  | .ok _ => ∀ said, ¬ unfit said
  | .error e => e.onShape = false ∧ ∀ said, unfit said ↔ said = e.message

lemma arithmeticCode_tells (sign : String) (args : List String) :
    Tells (BadArithmetic args) (arithmeticCode sign args) := by
  match args with
  | [] | [_] | [_, _] | _ :: _ :: _ :: _ :: _ =>
    refine ⟨rfl, fun said => ⟨fun h => ?_, fun h => h ▸ .count (by simp)⟩⟩
    cases h
    rfl
  | [name, left, right] =>
    by_cases hname : isName name = true
    · rw [arithmeticCode, if_pos hname]
      rintro said (⟨hcount⟩ | ⟨hno⟩)
      · exact hcount rfl
      · simp [hname] at hno
    · rw [arithmeticCode, if_neg hname]
      refine ⟨rfl, fun said => ⟨?_, fun h => h ▸ .noName (by simpa using hname)⟩⟩
      rintro (⟨hcount⟩ | ⟨hno⟩)
      · exact absurd rfl hcount
      · rfl

lemma badAssignment_cases {name word said : String} {rest : List String}
    (hname : isName name = true) (h : BadAssignment (name :: word :: rest) said) :
    ∃ op, operation? word = some op ∧
      (rest.length = 1 ∧ said = (EmitError.missingOperand op).message ∨
        3 ≤ rest.length ∧ said = (EmitError.surplusOperand op).message) := by
  cases h with
  | short h => simp only [List.length_cons] at h; omega
  | noName hno => simp [hname] at hno
  | oneOperand _ hop hword => exact ⟨_, operation?_eq_some_iff.mpr ⟨hop, hword⟩, .inl ⟨rfl, rfl⟩⟩
  | manyOperands _ hop hword h =>
    exact ⟨_, operation?_eq_some_iff.mpr ⟨hop, hword⟩, .inr ⟨h, rfl⟩⟩

/-- Where the variable is a name, the words after it decide. -/
lemma assignedText_tells {name : String} (hname : isName name = true) (word : String)
    (rest : List String) :
    Tells (BadAssignment (name :: word :: rest)) (assignedText word rest) := by
  cases hop : operation? word with
  | none =>
    -- without an operation the words are a value or a call, and nothing is wrong with them
    have hfits : ∀ said, ¬ BadAssignment (name :: word :: rest) said := by
      intro said h
      obtain ⟨op, hsome, -⟩ := badAssignment_cases hname h
      simp [hop] at hsome
    match rest with
    | [] | [_] | _ :: _ :: _ => simpa only [assignedText, hop, Tells] using hfits
  | some op =>
    obtain ⟨hmem, hform⟩ := operation?_eq_some_iff.mp hop
    match rest with
    | [] =>
      intro said h
      obtain ⟨-, -, ⟨h, -⟩ | ⟨h, -⟩⟩ := badAssignment_cases hname h
      · simp at h
      · simp at h
    | [x] =>
      simp only [assignedText, hop]
      refine ⟨rfl, fun said => ⟨fun h => ?_, fun h => h ▸ .oneOperand hname hmem hform⟩⟩
      obtain ⟨op', hop', ⟨-, h⟩ | ⟨h, -⟩⟩ := badAssignment_cases hname h
      · rw [h, Option.some.inj (hop'.symm.trans hop)]
      · simp at h
    | [x, y] =>
      simp only [assignedText, hop]
      intro said h
      obtain ⟨-, -, ⟨h, -⟩ | ⟨h, -⟩⟩ := badAssignment_cases hname h
      · simp at h
      · simp at h
    | x :: y :: z :: more =>
      simp only [assignedText, hop]
      refine ⟨rfl, fun said => ⟨fun h => ?_, fun h => h ▸ .manyOperands hname hmem hform (by simp)⟩⟩
      obtain ⟨op', hop', ⟨h, -⟩ | ⟨-, h⟩⟩ := badAssignment_cases hname h
      · simp at h
      · rw [h, Option.some.inj (hop'.symm.trans hop)]

lemma setCode_tells (args : List String) : Tells (BadAssignment args) (setCode args) := by
  match args with
  | [] | [_] =>
    refine ⟨rfl, fun said => ⟨fun h => ?_, fun h => h ▸ .short (by simp)⟩⟩
    cases h
    rfl
  | name :: word :: rest =>
    by_cases hname : isName name = true
    · have htext := assignedText_tells hname word rest
      rw [setCode, if_pos hname]
      cases h : assignedText word rest <;> rw [h] at htext <;> exact htext
    · rw [setCode, if_neg hname]
      refine ⟨rfl, fun said => ⟨fun h => ?_, fun h => h ▸ .noName (by simpa using hname)⟩⟩
      cases h with
      | short h => simp only [List.length_cons] at h; omega
      | noName => rfl
      | oneOperand hyes => exact absurd hyes hname
      | manyOperands hyes => exact absurd hyes hname

lemma defineCode_tells (args : List String) :
    Tells (fun said => args = [] ∧ said = EmitError.missingFunctionName.message)
      (defineCode args) := by
  cases args with
  | nil => exact ⟨rfl, fun said => and_iff_right rfl⟩
  | cons f params => exact fun said h => absurd h.1 (List.cons_ne_nil f params)

lemma callCode_tells (args : List String) :
    Tells (fun said => args = [] ∧ said = EmitError.missingCallee.message) (callCode args) := by
  cases args with
  | nil => exact ⟨rfl, fun said => and_iff_right rfl⟩
  | cons f args => exact fun said h => absurd h.1 (List.cons_ne_nil f args)

lemma conditionCode_tells (a : Action) (keyword : String) (args : List String) :
    Tells (fun said => args = [] ∧ said = (EmitError.missingCondition a).message)
      (conditionCode a keyword args) := by
  cases args with
  | nil => exact ⟨rfl, fun said => and_iff_right rfl⟩
  | cons w ws => exact fun said h => absurd h.1 (List.cons_ne_nil w ws)

lemma loopCode_tells (args : List String) :
    Tells (fun said => args.length < 3 ∧ said = EmitError.badLoop.message) (loopCode args) := by
  match args with
  | [] | [_] | [_, _] => exact ⟨rfl, fun said => and_iff_right (by simp)⟩
  | _ :: _ :: _ :: _ =>
    rintro said ⟨h, -⟩
    simp only [List.length_cons] at h
    omega

lemma code_tells (a : Action) (args : List String) : Tells (a.Unfit args) (a.code args) := by
  cases a with
  | set => exact setCode_tells args
  | call => exact callCode_tells args
  | define => exact defineCode_tells args
  | if_ => exact conditionCode_tells .if_ "if" args
  | elif => exact conditionCode_tells .elif "elif" args
  | while_ => exact conditionCode_tells .while_ "while" args
  | for_ => exact loopCode_tells args
  | add => exact arithmeticCode_tells "+" args
  | sub => exact arithmeticCode_tells "-" args
  | mul => exact arithmeticCode_tells "*" args
  | div => exact arithmeticCode_tells "/" args
  | print | giveBack | else_ | break_ | continue_ | try_ | except | finally_ | pass =>
    exact fun _ => id

/-! ### All statements -/

lemma emit_spec (s : Statement) (i : Indent) :
    ((∀ said, ¬ s.Unfit said) ∧ ∃ j line, s.emit i = (j, .ok line)) ∨
      ∃ j e, s.emit i = (j, .error e) ∧ e.onShape = false ∧
        ∀ said, s.Unfit said ↔ said = e.message := by
  cases s with
  | line a args state =>
    have htells := code_tells a args
    cases hcode : a.code args with
    | ok text =>
      rw [hcode] at htells
      refine .inl ⟨htells, ?_⟩
      simp only [Statement.emit, Indent.write, hcode]
      exact ⟨_, _, rfl⟩
    | error e =>
      rw [hcode] at htells
      refine .inr ⟨i.forAction a, e, ?_, htells⟩
      simp only [Statement.emit, Indent.write, hcode]
  | block name state => exact .inl ⟨fun _ => id, _, _, rfl⟩
  | blockEnd state => exact .inl ⟨fun _ => id, _, _, rfl⟩
  | arrow source target direction state => exact .inl ⟨fun _ => id, _, _, rfl⟩

lemma firstUnfit_cons_iff {s : Statement} {ss : List Statement} {said : String} :
    FirstUnfit (s :: ss) said ↔
      s.Unfit said ∨ (∀ other, ¬ s.Unfit other) ∧ FirstUnfit ss said := by
  constructor
  · rintro ⟨before, t, after, hsplit, hbefore, ht⟩
    cases before with
    | nil =>
      obtain ⟨rfl, rfl⟩ := List.cons.inj hsplit
      exact .inl ht
    | cons u before =>
      obtain ⟨rfl, rfl⟩ := List.cons.inj hsplit
      exact .inr ⟨hbefore s (by simp), before, t, after, rfl,
        fun v hv => hbefore v (List.mem_cons_of_mem s hv), ht⟩
  · rintro (hs | ⟨hs, before, t, after, rfl, hbefore, ht⟩)
    · exact ⟨[], s, ss, rfl, by simp, hs⟩
    · exact ⟨s :: before, t, after, rfl, by simpa using ⟨hs, hbefore⟩, ht⟩

/-- Statements are compiled up to the first that does not fit. -/
lemma emitAll_tells (ss : List Statement) (i : Indent) :
    ((emitAll i ss).refused = none ∧ ∀ s ∈ ss, ∀ said, ¬ s.Unfit said) ∨
      ∃ e, (emitAll i ss).refused = some e ∧ e.onShape = false ∧
        ∀ said, FirstUnfit ss said ↔ said = e.message := by
  induction ss generalizing i with
  | nil => exact .inl ⟨rfl, by simp⟩
  | cons s ss ih =>
    simp only [firstUnfit_cons_iff]
    obtain ⟨hfits, j, line, hs⟩ | ⟨j, e, hs, hshape, hunfit⟩ := emit_spec s i
    · simp only [emitAll, hs, hfits, not_false_eq_true, implies_true, true_and, false_or,
        List.forall_mem_cons]
      exact ih j
    · have hsome : ¬ ∀ other, ¬ s.Unfit other := fun h => h _ ((hunfit _).mpr rfl)
      simp only [emitAll, hs, hsome, false_and, or_false]
      exact .inr ⟨e, rfl, hshape, hunfit⟩

lemma compile_tells (p : Program Statement) :
    ((∃ text, p.compile.code = .ok text) ∧ ∀ s ∈ p.statements, ∀ said, ¬ s.Unfit said) ∨
      ∃ e, p.compile.code = .error e ∧ e.onShape = false ∧
        ∀ said, FirstUnfit p.statements said ↔ said = e.message := by
  obtain ⟨hnone, hfits⟩ | ⟨e, he, htells⟩ := emitAll_tells p.statements {}
  · refine .inl ⟨⟨"\n".intercalate (emitAll {} p.statements).lines, ?_⟩, hfits⟩
    simp only [Program.compile, hnone]
  · refine .inr ⟨e, ?_, htells⟩
    simp only [Program.compile, he]

lemma FirstUnfit.exists_mem {ss : List Statement} {said : String} (h : FirstUnfit ss said) :
    ∃ s ∈ ss, s.Unfit said := by
  obtain ⟨before, s, after, rfl, -, hs⟩ := h
  exact ⟨s, by simp, hs⟩

/-- The tree that is read from the tokens of a source is that of its program. -/
lemma Loose.parse_of_parseTokens {source : String} {tree : Datum}
    (h : Loose.parseTokens (.list ((tokenize source).map fun t => t.1.toDatum)) = .ok tree) :
    ∃ p, parse source = .ok p ∧ tree = p.toDatum Statement.toDatum := by
  have hread := Loose.parseTokens_toDatum ((tokenize source).map (·.1))
  rw [List.map_map] at hread
  have heq := hread.symm.trans h
  cases hp : Flowline.parseTokens ((tokenize source).map (·.1)) with
  | error e =>
    rw [hp] at heq
    cases heq
  | ok p =>
    rw [hp] at heq
    exact ⟨p, hp, (Except.ok.inj heq).symm⟩

/-- **Argument errors**: the tree of a source is compiled unless a line of it does not fit its
action, and then what is said of the first such line is told. There is no other fault, and none that
is about the shape of the tree. -/
theorem compile_refuses_firstUnfit (source : String) (tree : Datum)
    (htree : Loose.parseTokens (.list ((tokenize source).map fun t => t.1.toDatum)) = .ok tree) :
    ∃ p, parse source = .ok p ∧ tree = p.toDatum Statement.toDatum ∧
      (∀ f, (Loose.compile tree).2 = .error f → ∃ e, f = .emit e ∧ e.onShape = false) ∧
      (∀ said, (∃ e, (Loose.compile tree).2 = .error (.emit e) ∧ e.message = said) ↔
        FirstUnfit p.statements said) ∧
      ((∃ f, (Loose.compile tree).2 = .error f) ↔
        ∃ s ∈ p.statements, ∃ said, s.Unfit said) := by
  obtain ⟨p, hp, rfl⟩ := Loose.parse_of_parseTokens htree
  refine ⟨p, hp, rfl, ?_⟩
  rw [Loose.compile_toDatum]
  obtain ⟨⟨text, htext⟩, hfits⟩ | ⟨e, he, hshape, htells⟩ := compile_tells p
  · -- every line fits
    have hnone (said : String) : ¬ FirstUnfit p.statements said := by
      intro h
      obtain ⟨s, hs, hunfit⟩ := h.exists_mem
      exact hfits s hs said hunfit
    simp only [htext, Except.mapError, reduceCtorEq, false_and, exists_false, hnone]
    simpa using hfits
  · -- a line does not fit, and the first of them is told
    have hfirst : FirstUnfit p.statements e.message := (htells _).mpr rfl
    obtain ⟨s, hs, hunfit⟩ := hfirst.exists_mem
    simp only [he, Except.mapError, Except.error.injEq]
    refine ⟨?_, fun said => ?_, ?_⟩
    · rintro f rfl
      exact ⟨e, rfl, hshape⟩
    · rw [htells]
      constructor
      · rintro ⟨e', heq, rfl⟩
        rw [Fault.emit.inj heq]
      · rintro rfl
        exact ⟨e, rfl, rfl⟩
    · exact ⟨fun _ => ⟨s, hs, e.message, hunfit⟩, fun _ => ⟨.emit e, rfl⟩⟩

/-- An operation with one operand, a number that is assigned and a loop over nothing. -/
def crookedSource : String := "若 x\n置 y add 1\n终\nset 1 2\n扭扭 i in\n"

def crookedProgram : Program Statement :=
  ⟨[[[.line .if_ ["x"] "~", .line .set ["y", "add", "1"] "~", .blockEnd "~",
    .line .set ["1", "2"] "~", .line .for_ ["i", "in"] "~"]]]⟩

lemma crookedProgram_firstUnfit :
    FirstUnfit crookedProgram.statements "ADD in SET expects 4 args: 置 result 加 left right" := by
  refine firstUnfit_cons_iff.mpr (.inr ⟨?_, firstUnfit_cons_iff.mpr (.inl ?_)⟩)
  · rintro said ⟨h, -⟩
    cases h
  · have hadd : Action.add.IsForm "add" := .inl rfl
    exact BadAssignment.oneOperand (by decide +kernel) (by decide) hadd

theorem crookedSource_refused :
    Loose.parseTokens (.list ((tokenize crookedSource).map fun t => t.1.toDatum)) =
        .ok (crookedProgram.toDatum Statement.toDatum) ∧
      ∃ e, (Loose.compile (crookedProgram.toDatum Statement.toDatum)).2 = .error (.emit e) ∧
        e.message = "ADD in SET expects 4 args: 置 result 加 left right" := by
  have hp : parse crookedSource = .ok crookedProgram := by decide +kernel
  have htree := Loose.parseTokens_toDatum ((tokenize crookedSource).map (·.1))
  rw [List.map_map, ← parse, hp] at htree
  obtain ⟨p, hp', -, -, htold, -⟩ := compile_refuses_firstUnfit crookedSource _ htree
  obtain rfl : crookedProgram = p := Except.ok.inj (hp.symm.trans hp')
  exact ⟨htree, (htold _).mpr crookedProgram_firstUnfit⟩

end Flowline
