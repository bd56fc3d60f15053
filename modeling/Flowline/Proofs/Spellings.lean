import Mathlib.Tactic.Lemma
import Flowline.Proofs.Arguments
import Flowline.Proofs.Concatenation

/-!
The two spellings of arithmetic.

An operation has a line of its own, as in `加 r a b`, or stands inside an assignment, as in
`置 r 加 a b`. The assignment sorts its words by their number before it looks for an operation, and
makes its own checks; the two lines are refused for different reasons. But they are refused for the
same arguments, and where they are not they write the same text (`Computes`), so that in a program
one may stand for the other.
-/

namespace Flowline

/-- The text of a computation: the result is a name, and there are two operands. -/
inductive Computes (sign : String) : List String → String → Prop
  | mk {result left right : String} (hname : isName result = true) :
      Computes sign [result, left, right]
        (result ++ " = " ++ operand left ++ " " ++ sign ++ " " ++ operand right)

/-! ### One line -/

section Line

variable {op : Action} {word sign result text : String} {operands : List String}

lemma code_of_sign (hsign : op.sign? = some sign) (args : List String) :
    op.code args = arithmeticCode sign args := by
  cases op with
  | add | sub | mul | div => cases hsign; rfl
  | _ => cases hsign

lemma places_of_sign (hsign : op.sign? = some sign) :
    Action.set.opensBlock = op.opensBlock ∧ Action.set.continuesChain = op.continuesChain := by
  cases op with
  | add | sub | mul | div => exact ⟨rfl, rfl⟩
  | _ => cases hsign

lemma operation?_of_sign (hsign : op.sign? = some sign) (hword : op.IsForm word) :
    operation? word = some op := by
  refine operation?_eq_some_iff.mpr ⟨?_, hword⟩
  cases op with
  | add | sub | mul | div => decide
  | _ => cases hsign

lemma arithmeticCode_eq_ok_iff {args : List String} :
    arithmeticCode sign args = .ok text ↔ Computes sign args text := by
  constructor
  · intro h
    match args with
    | [] | [_] | [_, _] | _ :: _ :: _ :: _ :: _ => cases h
    | [result, left, right] =>
      by_cases hname : isName result = true
      · rw [arithmeticCode, if_pos hname] at h
        cases h
        exact .mk hname
      · rw [arithmeticCode, if_neg hname] at h
        cases h
  · rintro ⟨hname⟩
    rw [arithmeticCode, if_pos hname]

/-- Behind the word of an operation there are two words, or nothing is assigned. -/
lemma assignedText_eq_ok_iff (hop : operation? word = some op) (hsign : op.sign? = some sign)
    (hne : operands ≠ []) :
    assignedText word operands = .ok text ↔
      ∃ left right, operands = [left, right] ∧
        text = operand left ++ " " ++ sign ++ " " ++ operand right := by
  match operands with
  | [] => exact absurd rfl hne
  | [_] => simp [assignedText, hop]
  | [left, right] => simp [assignedText, hop, hsign, eq_comm]
  | _ :: _ :: _ :: _ => simp [assignedText, hop]

lemma setCode_eq_ok_iff (hop : operation? word = some op) (hsign : op.sign? = some sign)
    (hne : operands ≠ []) :
    setCode (result :: word :: operands) = .ok text ↔ Computes sign (result :: operands) text := by
  by_cases hname : isName result = true
  · rw [setCode, if_pos hname]
    constructor
    · intro h
      rcases hassigned : assignedText word operands with e | value
      · rw [hassigned] at h
        cases h
      · obtain ⟨left, right, rfl, rfl⟩ := (assignedText_eq_ok_iff hop hsign hne).mp hassigned
        rw [hassigned] at h
        cases h
        have hcomputes : Computes sign [result, left, right] _ := .mk hname
        simpa only [String.append_assoc] using hcomputes
    · rintro ⟨-⟩
      rw [(assignedText_eq_ok_iff hop hsign hne).mpr ⟨_, _, rfl, rfl⟩]
      simp only [Except.map, String.append_assoc]
  · rw [setCode, if_neg hname]
    constructor
    · intro h
      cases h
    · rintro ⟨hyes⟩
      exact absurd hyes hname

end Line

/-! ### Words that come as data -/

namespace Loose

lemma mapError_eq_ok_iff {r : Except EmitError String} {text : String} :
    r.mapError Fault.emit = .ok text ↔ r = .ok text := by
  rcases r with e | code
  · simp only [Except.mapError, reduceCtorEq]
  · simp only [Except.mapError, Except.ok.injEq]

lemma joinable_words (ws : List String) : joinable (ws.map .text) = .ok ws := by
  induction ws with
  | nil => rfl
  | cons w ws ih =>
    unfold joinable at ih ⊢
    rw [List.map_cons, List.mapM_cons, ih]
    rfl

lemma callOf_words (f : String) (args : List String) :
    callOf (.text f) (args.map .text) = .ok (callText f args) := by
  have hvalues : (args.map Datum.text).mapM (render operand) =
      .ok ((args.map operand).map .text) := by
    induction args with
    | nil => rfl
    | cons w ws ih =>
      rw [List.map_cons, List.mapM_cons, ih]
      rfl
  simp only [callOf, hvalues, bind, Except.bind, joinable_words]
  rfl

lemma arithmeticOf_words (sign : String) (ws : List String) :
    arithmeticOf sign (.ofWords ws) = (arithmeticCode sign ws).mapError .emit := by
  match ws with
  | [] | [_] | [_, _] => rfl
  | [result, left, right] =>
    have hopen : arithmeticOf sign (.ofWords [result, left, right]) =
        if isName result then
          .ok (result ++ " = " ++ (operand left ++ " " ++ sign ++ " " ++ operand right))
        else emitError (.badResult result) := rfl
    rw [hopen, arithmeticCode]
    split
    · simp only [Except.mapError, String.append_assoc]
    · rfl
  | a :: b :: c :: d :: rest =>
    have hsize : rest.length + 1 + 1 + 1 + 1 ≠ 3 := by omega
    simp only [arithmeticOf, Datum.ofWords, Args.ofDatum, Args.size, List.map_cons,
      List.length_cons, List.length_map, bind, Except.bind, if_pos hsize]
    rfl

lemma setOf_words (ws : List String) :
    setOf (.ofWords ws) = (setCode ws).mapError .emit := by
  match ws with
  | [] | [_] => rfl
  | name :: word :: rest =>
    have hsize : ¬ rest.length + 1 + 1 < 2 := by omega
    simp only [setOf, setCode, Datum.ofWords, Args.ofDatum, Args.size, Args.at, Args.from, wordOf,
      Datum.text?, List.map_cons, List.length_cons, List.length_map, List.getElem?_cons_zero,
      List.getElem?_cons_succ, List.drop_succ_cons, List.drop_zero, Option.bind_some, bind,
      Except.bind, if_neg hsize]
    cases isName name with
    | false => rfl
    | true =>
      simp only [Bool.not_true, Bool.false_eq_true, if_false, if_true]
      rcases rest with _ | ⟨x, _ | ⟨y, more⟩⟩
      · -- one word is the value
        simp only [List.map_nil, assignedText]
        split <;> rfl
      · -- one operand
        simp only [List.map_cons, List.map_nil, assignedText]
        cases operation? word <;> rfl
      · -- two operands or more
        simp only [List.map_cons, assignedText]
        cases operation? word with
        | some op => cases more <;> rfl
        | none =>
          have hcall := callOf_words word (x :: y :: more)
          simp only [List.map_cons] at hcall
          simp only [hcall]
          rfl

end Loose

/-! ### A line in a program -/

/-- Wherever one of the statements stands in a program, the other may stand: the program has the
same text, or none with either. -/
def Statement.Interchangeable (s t : Statement) : Prop :=
  ∀ (before after : List Statement) (p q : Program Statement),
    p.statements = before ++ s :: after → q.statements = before ++ t :: after →
      ∀ text, p.compile.code = .ok text ↔ q.compile.code = .ok text

/-- From this indentation the statements do the same, or both are refused. -/
def Statement.AlikeFrom (i : Indent) (s t : Statement) : Prop :=
  s.emit i = t.emit i ∨ ∃ j e k f, s.emit i = (j, .error e) ∧ t.emit i = (k, .error f)

/-- One step decides: what stands before the statements is compiled first, and what stands after
begins where they end. -/
lemma emitAll_alike {s t : Statement} (h : ∀ i, s.AlikeFrom i t) (before after : List Statement)
    (i : Indent) :
    emitAll i (before ++ s :: after) = emitAll i (before ++ t :: after) ∨
      ∃ e f, (emitAll i (before ++ s :: after)).refused = some e ∧
        (emitAll i (before ++ t :: after)).refused = some f := by
  rw [emitAll_append, emitAll_append]
  rcases hbefore : (emitAll i before).refused with _ | e
  · simp only [Emission.andThen, hbefore, emitAll]
    obtain heq | ⟨j, e, k, f, hs, ht⟩ := h (emitAll i before).indent
    · rw [heq]
      exact .inl rfl
    · rw [hs, ht]
      exact .inr ⟨e, f, rfl, rfl⟩
  · left
    simp only [Emission.andThen, hbefore]

lemma interchangeable_of_alike {s t : Statement} (h : ∀ i, s.AlikeFrom i t) :
    s.Interchangeable t := by
  intro before after p q hp hq text
  obtain heq | ⟨e, f, he, hf⟩ := emitAll_alike h before after {}
  · rw [← hp, ← hq] at heq
    simp only [Program.compile, heq]
  · rw [← hp] at he
    rw [← hq] at hf
    simp only [code_of_refused he, code_of_refused hf, reduceCtorEq]

/-- Lines are alike if their codes are and their actions ask for the same places. -/
lemma line_alike {a b : Action} {args others : List String} (hopens : a.opensBlock = b.opensBlock)
    (hchain : a.continuesChain = b.continuesChain)
    (h : ∀ text, a.code args = .ok text ↔ b.code others = .ok text) (state : String) (i : Indent) :
    (Statement.line a args state).AlikeFrom i (.line b others state) := by
  have hplace : i.forAction a = i.forAction b := by rw [Indent.forAction, Indent.forAction, hchain]
  rcases ha : a.code args with e | text
  · rcases hb : b.code others with f | text
    · refine .inr ⟨i.forAction a, e, i.forAction b, f, ?_, ?_⟩
      · simp only [Statement.emit, Indent.write, ha]
      · simp only [Statement.emit, Indent.write, hb]
    · rw [(h text).mpr hb] at ha
      cases ha
  · have hb := (h text).mp ha
    left
    simp only [Statement.emit, Indent.write, ha, hb, hplace, hopens]

/-- **The two spellings of arithmetic agree**: with at least one operand, the assignment of an
operation and the line of the operation write the same text, that of a computation, or are both
refused. This holds of words and of words that come as data, and no program around the line can tell
which of the two it has. -/
theorem arithmetic_spellings_agree (op : Action) (word sign result : String)
    (operands : List String) (hsign : op.sign? = some sign) (hword : op.IsForm word)
    (hne : operands ≠ []) :
    (∀ text, setCode (result :: word :: operands) = .ok text ↔
        arithmeticCode sign (result :: operands) = .ok text) ∧
      (∀ text, arithmeticCode sign (result :: operands) = .ok text ↔
        Computes sign (result :: operands) text) ∧
      (∀ text, Loose.setOf (.ofWords (result :: word :: operands)) = .ok text ↔
        Loose.arithmeticOf sign (.ofWords (result :: operands)) = .ok text) ∧
      ∀ state, (Statement.line .set (result :: word :: operands) state).Interchangeable
        (.line op (result :: operands) state) := by
  have hwords (text : String) : setCode (result :: word :: operands) = .ok text ↔
      arithmeticCode sign (result :: operands) = .ok text :=
    (setCode_eq_ok_iff (operation?_of_sign hsign hword) hsign hne).trans
      arithmeticCode_eq_ok_iff.symm
  refine ⟨hwords, fun _ => arithmeticCode_eq_ok_iff, fun text => ?_,
    fun state => interchangeable_of_alike fun i => ?_⟩
  · rw [Loose.setOf_words, Loose.arithmeticOf_words, Loose.mapError_eq_ok_iff,
      Loose.mapError_eq_ok_iff, hwords]
  · obtain ⟨hopens, hchain⟩ := places_of_sign hsign
    refine line_alike hopens hchain (fun text => ?_) state i
    rw [code_of_sign hsign]
    exact hwords text

/-- A quotient of a text and a constant, and one with an operand too many. -/
theorem quotient_spelled_inside :
    (Action.div.sign? = some "/" ∧ Action.div.IsForm "除" ∧ ["a-b", "真"] ≠ []) ∧
      setCode ["商", "除", "a-b", "真"] = .ok "商 = \"a-b\" / True" ∧
      Loose.setOf (.ofWords ["商", "除", "a-b", "真"]) = .ok "商 = \"a-b\" / True" ∧
      (Statement.line .set ["商", "除", "a-b", "真"] "~").Interchangeable
        (.line .div ["商", "a-b", "真"] "~") ∧
      ∀ text, setCode ["商", "div", "a-b", "真", "1"] ≠ .ok text := by
  have hform : Action.div.IsForm "除" := .inr rfl
  have hother : Action.div.IsForm "div" := .inl rfl
  obtain ⟨hwords, -, hdata, hprogram⟩ :=
    arithmetic_spellings_agree .div "除" "/" "商" ["a-b", "真"] rfl hform (by decide)
  obtain ⟨hsurplus, -⟩ :=
    arithmetic_spellings_agree .div "div" "/" "商" ["a-b", "真", "1"] rfl hother (by decide)
  have hline : arithmeticCode "/" ["商", "a-b", "真"] = .ok "商 = \"a-b\" / True" := by
    decide +kernel
  refine ⟨⟨rfl, hform, by decide⟩, (hwords _).mpr hline, (hdata _).mpr ?_, hprogram "~", ?_⟩
  · rw [Loose.arithmeticOf_words, hline]
    rfl
  · intro text h
    cases (hsurplus text).mp h

-- without operands the word of the operation is a variable
example : setCode ["x", "add"] = .ok "x = add" ∧
    arithmeticCode "+" ["x"] = .error .badArithmetic := by
  decide +kernel

end Flowline
