import Mathlib.Tactic.Lemma
import Flowline.Proofs.StraightReading
import Flowline.Script.Run

/-!
Running the program of a straight-line source.

Two kinds of programs are refused, and no others: those with a number of too many digits, and those
that assign the name of a constant. Running any other keeps one invariant: the machine holds the
integers of all the names that are known. Each command is one step of the run; it changes the
machine as it changes the environment and prints what it prints there, so the whole run prints the
values of the commands.
-/

namespace Flowline.Script

lemma Bindings.lookup_put (b : Bindings) (x y : String) (v : Value) :
    (b.put x v).lookup y = if y = x then some v else b.lookup y := by
  induction b with
  | nil =>
    by_cases h : y = x
    · simp [Bindings.put, h]
    · simp [Bindings.put, List.lookup_cons, h, beq_eq_false_iff_ne.mpr h]
  | cons p b ih =>
    obtain ⟨z, w⟩ := p
    by_cases hz : z = x
    · subst hz
      by_cases h : y = z
      · simp [Bindings.put, h]
      · simp [Bindings.put, List.lookup_cons, h, beq_eq_false_iff_ne.mpr h]
    · by_cases h : y = z
      · subst h
        simp [Bindings.put, hz]
      · simp [Bindings.put, List.lookup_cons, hz, beq_eq_false_iff_ne.mpr h, ih]

/-- The text of a whole number that is short enough to be written. -/
lemma wholeText_eq {v : Int} (h : (toString v.natAbs).length ≤ digitLimit) :
    wholeText v = .ok (toString v) := by
  rw [wholeText, if_neg (Nat.not_lt.mpr h), Int.toString_eq_repr, Int.repr_eq_if]
  rcases Int.lt_or_le v 0 with hv | hv
  · have hnat : v.natAbs = (-v).toNat := by omega
    rw [if_pos hv, if_neg (Int.not_le.mpr hv), hnat]
    rfl
  · have hnat : v.natAbs = v.toNat := by omega
    rw [if_neg (Int.not_lt.mpr hv), if_pos hv, hnat]
    rfl

end Flowline.Script

namespace Flowline.Straight

open Script

/-! ### Which programs are read -/

/-- A number has at most as many digits as a program can have in a number. -/
def Term.IsShort : Term → Prop
  | name _ => True
  | whole _ n => (toString n).length ≤ digitLimit

/-- The command can stand in a program: its numbers are short, and what it assigns is no constant.
-/
structure Command.IsReadable (c : Command) : Prop where
  short : ∀ t ∈ c.terms, t.IsShort
  free : constantName ∉ c.assigned

instance : (t : Term) → Decidable t.IsShort
  | .name _ => isTrue trivial
  | .whole _ n => inferInstanceAs (Decidable ((toString n).length ≤ digitLimit))

instance (c : Command) : Decidable c.IsReadable :=
  decidable_of_iff ((∀ t ∈ c.terms, t.IsShort) ∧ constantName ∉ c.assigned)
    ⟨fun ⟨h, hf⟩ => ⟨h, hf⟩, fun h => ⟨h.short, h.free⟩⟩

def Term.expr : Term → Expr
  | name x => .name x
  | whole negative n => if negative then .negate (.number (.whole n)) else .number (.whole n)

def Formula.expr : Formula → Expr
  | term a => a.expr
  | operate op a b => .arith op.arith a.expr b.expr

def Command.stmt (line : Nat) : Command → Stmt
  | assign x f => .assign line x f.expr
  | print x => .expr (.call (.name "print") [.name x])

def stmtsFrom (line : Nat) : List Command → List Stmt
  | [] => []
  | c :: cs => c.stmt line :: stmtsFrom (line + 1) cs

lemma length_stmtsFrom (cs : List Command) (line : Nat) :
    (stmtsFrom line cs).length = cs.length := by
  induction cs generalizing line with
  | nil => rfl
  | cons c cs ih => simp [stmtsFrom, ih]

lemma Term.read_eq_ok_iff {t : Term} {line : Nat} {e : Expr} :
    t.read line = .ok e ↔ t.IsShort ∧ t.expr = e := by
  cases t with
  | name x => simp [read, IsShort, expr]
  | whole negative n =>
    rw [read, IsShort, length_toString, expr]
    by_cases h : (digits n).length ≤ digitLimit
    · simp only [h, if_true, true_and, Except.ok.injEq]
    · simp only [h, if_false, false_and, reduceCtorEq]

lemma Formula.read_eq_ok_iff {f : Formula} {line : Nat} {e : Expr} :
    f.read line = .ok e ↔ (∀ t ∈ f.terms, t.IsShort) ∧ f.expr = e := by
  cases f with
  | term a => simpa [read, terms, expr] using a.read_eq_ok_iff
  | operate op a b =>
    simp only [read, bind_eq_ok_iff, Term.read_eq_ok_iff, pure, Except.pure, Except.ok.injEq]
    constructor
    · rintro ⟨_, ⟨ha, rfl⟩, _, ⟨hb, rfl⟩, rfl⟩
      exact ⟨by simp [terms, ha, hb], rfl⟩
    · rintro ⟨h, rfl⟩
      exact ⟨_, ⟨h a (by simp [terms]), rfl⟩, _, ⟨h b (by simp [terms]), rfl⟩, rfl⟩

lemma Command.read_eq_ok_iff {c : Command} {line : Nat} {s : Stmt} :
    c.read line = .ok s ↔ (∀ t ∈ c.terms, t.IsShort) ∧ c.stmt line = s := by
  cases c with
  | print x => simp [read, terms, Term.IsShort, stmt]
  | assign x f =>
    constructor
    · intro h
      obtain ⟨e, he, rfl⟩ := map_eq_ok h
      obtain ⟨hshort, rfl⟩ := Formula.read_eq_ok_iff.mp he
      exact ⟨hshort, rfl⟩
    · rintro ⟨hshort, rfl⟩
      rw [read, Formula.read_eq_ok_iff.mpr ⟨hshort, rfl⟩]
      rfl

lemma readFrom_eq_ok_iff {cs : List Command} {line : Nat} {ss : List Stmt} :
    readFrom line cs = .ok ss ↔
      (∀ c ∈ cs, ∀ t ∈ c.terms, t.IsShort) ∧ stmtsFrom line cs = ss := by
  induction cs generalizing line ss with
  | nil => simp [readFrom, stmtsFrom]
  | cons c cs ih =>
    simp only [readFrom, bind_eq_ok_iff, Command.read_eq_ok_iff, ih, pure, Except.pure,
      Except.ok.injEq, List.forall_mem_cons]
    constructor
    · rintro ⟨_, ⟨hc, rfl⟩, _, ⟨hcs, rfl⟩, rfl⟩
      exact ⟨⟨hc, hcs⟩, rfl⟩
    · rintro ⟨⟨hc, hcs⟩, rfl⟩
      exact ⟨_, ⟨hc, rfl⟩, _, ⟨hcs, rfl⟩, rfl⟩

lemma repeatedParamAll?_stmtsFrom (cs : List Command) (line : Nat) :
    repeatedParamAll? (stmtsFrom line cs) = none := by
  induction cs generalizing line with
  | nil => rfl
  | cons c cs ih =>
    rw [stmtsFrom, repeatedParamAll?, ih]
    cases c <;> rfl

lemma misfitAll?_stmtsFrom (cs : List Command) (line : Nat) :
    misfitAll? {} (stmtsFrom line cs) = none ↔ ∀ c ∈ cs, constantName ∉ c.assigned := by
  induction cs generalizing line with
  | nil => simp [stmtsFrom, misfitAll?]
  | cons c cs ih =>
    rw [stmtsFrom, misfitAll?, Option.or_eq_none_iff, ih, List.forall_mem_cons]
    refine and_congr_left fun _ => ?_
    cases c with
    | print x => simp [Command.stmt, Stmt.misfit?, Command.assigned]
    | assign x f =>
      simp only [Command.stmt, Stmt.misfit?, Place.assigning?, Command.assigned]
      split <;> simp_all

lemma checkPlaces_stmtsFrom {cs : List Command} {line : Nat} {ss : List Stmt} :
    checkPlaces (stmtsFrom line cs) = .ok ss ↔
      (∀ c ∈ cs, constantName ∉ c.assigned) ∧ stmtsFrom line cs = ss := by
  rw [← misfitAll?_stmtsFrom cs line, checkPlaces, repeatedParamAll?_stmtsFrom]
  cases misfitAll? {} (stmtsFrom line cs) <;> simp

/-- The program of commands can be read if and only if all of them are readable. -/
theorem readProgram_eq_ok_iff {cs : List Command} (h : ∀ c ∈ cs, c.IsNamed) {ss : List Stmt} :
    readProgram (program cs) = .ok ss ↔ (∀ c ∈ cs, c.IsReadable) ∧ stmtsFrom 1 cs = ss := by
  rw [readProgram_program h, bind_eq_ok_iff]
  constructor
  · rintro ⟨_, hread, hcheck⟩
    obtain ⟨hshort, rfl⟩ := readFrom_eq_ok_iff.mp hread
    obtain ⟨hfree, rfl⟩ := checkPlaces_stmtsFrom.mp hcheck
    exact ⟨fun c hc => ⟨hshort c hc, hfree c hc⟩, rfl⟩
  · rintro ⟨hall, rfl⟩
    exact ⟨_, readFrom_eq_ok_iff.mpr ⟨fun c hc => (hall c hc).short, rfl⟩,
      checkPlaces_stmtsFrom.mpr ⟨fun c hc => (hall c hc).free, rfl⟩⟩

lemma flaw_of_readFrom {cs : List Command} {line : Nat} {e : ReadError}
    (h : readFrom line cs = .error e) : ∃ digits, e.flaw = .literal (.longNumber digits) := by
  induction cs generalizing line with
  | nil => cases h
  | cons c cs ih =>
    simp only [readFrom, bind_eq_error_iff] at h
    rcases h with hc | ⟨s, -, hrest | ⟨ss, -, hpure⟩⟩
    · exact Command.flaw_of_read hc
    · exact ih hrest
    · cases hpure

/-- A program of commands is refused for a number or for an assigned constant, never for the way
its lines are indented. -/
lemma isIndentation_of_readProgram {cs : List Command} (h : ∀ c ∈ cs, c.IsNamed) {e : ReadError}
    (he : readProgram (program cs) = .error e) : e.isIndentation = false := by
  rw [readProgram_program h, bind_eq_error_iff] at he
  rcases he with hread | ⟨ss, -, hplaces⟩
  · obtain ⟨digits, hflaw⟩ := flaw_of_readFrom hread
    rw [ReadError.isIndentation, hflaw]
    rfl
  · exact isIndentation_of_checkPlaces hplaces

/-! ### Running -/

/-- The machine holds the values of the known names, and the name of the printing function is not
taken. -/
structure Holds (m : Machine) (known : List String) (env : String → Int) : Prop where
  values : ∀ x ∈ known, m.globals.lookup x = some (.int (env x))
  print : m.globals.lookup "print" = none

variable {m : Machine} {known : List String} {env : String → Int} {k : Nat}

lemma eval_term {t : Term} (hm : Holds m known env) (ht : ∀ x ∈ t.names, x ∈ known) :
    eval (k + 2) [] t.expr m = (m, .done (.int (t.value env))) := by
  cases t with
  | name x =>
    have hx := hm.values x (ht x (by simp [Term.names]))
    simp [Term.expr, eval, Machine.lookup, Machine.global, hx, Machine.lift, Term.value]
  | whole negative n =>
    cases negative with
    | false => rfl
    | true =>
      simp [Term.expr, eval, numberValue, Result.andThen, Value.negate, Value.amount?, Machine.lift,
        Term.value]

lemma eval_formula {f : Formula} (hm : Holds m known env)
    (hf : ∀ t ∈ f.terms, ∀ x ∈ t.names, x ∈ known) :
    eval (k + 3) [] f.expr m = (m, .done (.int (f.value env))) := by
  cases f with
  | term a => exact eval_term hm (hf a (by simp [Formula.terms]))
  | operate op a b =>
    have ha := eval_term (k := k) hm (hf a (by simp [Formula.terms]))
    have hb := eval_term (k := k) hm (hf b (by simp [Formula.terms]))
    simp only [Formula.expr, eval, ha, hb, Result.andThen]
    cases op <;> rfl

def listing (values : List Int) : String := String.join (values.map fun v => toString v ++ "\n")

lemma listing_append (vs ws : List Int) : listing (vs ++ ws) = listing vs ++ listing ws := by
  rw [listing, List.map_append, String.join_append]
  rfl

lemma eval_print {x : String} (hm : Holds m known env) (hx : x ∈ known)
    (hshort : (toString (env x).natAbs).length ≤ digitLimit) :
    eval (k + 3) [] (.call (.name "print") [.name x]) m =
      (m.print (toString (env x) ++ "\n"), .done .nothing) := by
  have hvalue := hm.values x hx
  have hfunction : Machine.standard? "print" = some (.builtin .print) := by rfl
  simp only [eval, evalAll, callValue, Machine.lookup, Machine.global, hm.print, hfunction, hvalue,
    Machine.lift, Result.andThen, Machine.callBuiltin, Machine.printAll, Value.display,
    wholeText_eq hshort]

/-- One command: its statement is run, the machine holds the environment after it, and what it
prints is added. -/
lemma runStmt_command {c : Command} (hm : Holds m known env) (hc : c.IsNamed)
    (hknown : ∀ t ∈ c.terms, ∀ x ∈ t.names, x ∈ known)
    (hshort : ∀ v ∈ c.shown env, (toString v.natAbs).length ≤ digitLimit) (line : Nat) :
    ∃ m', runStmt (k + 4) [] (c.stmt line) m = (m', .done .normal) ∧
      Holds m' (c.assigned ++ known) (c.update env) ∧
      m'.printed = m.printed ++ listing (c.shown env) := by
  cases c with
  | assign x f =>
    have hx : IsVariable x := hc.target
    refine ⟨m.assign [] x (.int (f.value env)), ?_, ⟨fun y hy => ?_, ?_⟩, ?_⟩
    · simp only [Command.stmt, runStmt, eval_formula hm hknown, Result.andThen]
    · simp only [Machine.assign, Bindings.lookup_put, Command.update, Function.update_apply]
      by_cases hyx : y = x
      · rw [if_pos hyx, if_pos hyx]
      · have hy' : y ∈ known := by simpa [Command.assigned, hyx] using hy
        rw [if_neg hyx, if_neg hyx, hm.values y hy']
    · -- the name `print` is not assigned, so it is still the built-in function
      have hne : "print" ≠ x := by
        rintro rfl
        exact hx.free (by decide)
      simp only [Machine.assign, Bindings.lookup_put, if_neg hne, hm.print]
    · simp [Machine.assign, Command.shown, listing]
  | print x =>
    have hx : x ∈ known := hknown (.name x) (by simp [Command.terms]) x (by simp [Term.names])
    have hv := hshort (env x) (by simp [Command.shown])
    refine ⟨m.print (toString (env x) ++ "\n"), ?_, ⟨fun y hy => ?_, hm.print⟩, ?_⟩
    · simp only [Command.stmt, runStmt, eval_print hm hx hv, Result.andThen]
    · exact hm.values y (by simpa [Command.assigned] using hy)
    · simp [Machine.print, Command.shown, listing]

lemma runBlock_commands {cs : List Command} (hm : Holds m known env) (hcs : ∀ c ∈ cs, c.IsNamed)
    (hscoped : Scoped known cs)
    (hshort : ∀ v ∈ evaluate env cs, (toString v.natAbs).length ≤ digitLimit) (line : Nat) :
    ∃ m', runBlock (k + 5 + cs.length) [] (stmtsFrom line cs) m = (m', .done .normal) ∧
      m'.printed = m.printed ++ listing (evaluate env cs) := by
  induction cs generalizing m known env line with
  | nil => exact ⟨m, rfl, by simp [evaluate, listing]⟩
  | cons c cs ih =>
    obtain ⟨m₁, hrun, hm₁, hprinted⟩ := runStmt_command (k := k + 1 + cs.length) hm
      (hcs c (by simp)) hscoped.1 (fun v hv => hshort v (by simp [evaluate, hv])) line
    obtain ⟨m₂, hrest, hprinted₂⟩ := ih hm₁ (fun d hd => hcs d (List.mem_cons_of_mem c hd))
      hscoped.2 (fun v hv => hshort v (by simp [evaluate, hv])) (line + 1)
    have hfuel : k + 1 + cs.length + 4 = k + 5 + cs.length := by omega
    rw [hfuel] at hrun
    refine ⟨m₂, ?_, ?_⟩
    · rw [List.length_cons, ← Nat.add_assoc, stmtsFrom, runBlock, hrun]
      exact hrest
    · rw [hprinted₂, hprinted, evaluate, listing_append, String.append_assoc]

/-- **The generated program prints the values**, if all commands are readable. -/
theorem run_program {cs : List Command} (hcs : ∀ c ∈ cs, c.IsNamed) (hscoped : Scoped [] cs)
    (env : String → Int)
    (hshort : ∀ v ∈ evaluate env cs, (toString v.natAbs).length ≤ digitLimit) (input : List Char)
    (hreadable : ∀ c ∈ cs, c.IsReadable) :
    Script.run (program cs) input = (listing (evaluate env cs), .finished) := by
  have hread := (readProgram_eq_ok_iff hcs).mpr ⟨hreadable, rfl⟩
  have hstart : Holds { globals := [("__name__", .text "__catapillar_exec__")], input } [] env :=
    ⟨by simp, rfl⟩
  obtain ⟨m, hrun, hprinted⟩ := runBlock_commands (k := stepLimit - 5) hstart hcs hscoped hshort 1
  have hfuel : stepLimit - 5 + 5 = stepLimit := by decide
  rw [hfuel] at hrun
  simp only [Script.run, hread, length_stmtsFrom, hrun, hprinted, String.empty_append]

lemma run_unreadable {cs : List Command} (hcs : ∀ c ∈ cs, c.IsNamed) (input : List Char)
    (h : ¬ ∀ c ∈ cs, c.IsReadable) :
    ∃ e, Script.run (program cs) input = ("", .unreadable e) ∧ e.isIndentation = false := by
  cases hread : readProgram (program cs) with
  | error e => exact ⟨e, by simp only [Script.run, hread], isIndentation_of_readProgram hcs hread⟩
  | ok ss => exact absurd ((readProgram_eq_ok_iff hcs).mp hread).1 h

end Flowline.Straight
