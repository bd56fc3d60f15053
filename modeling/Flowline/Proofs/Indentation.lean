import Flowline.Proofs.Nested

/-!
The indentation of a structured program.

The compiler keeps a level and one bit: whether the last statement was a block end. It cannot tell the
block end of a clause from that of a statement inside the clause. So a clause whose block end was left
out, after a body that ends with a compound statement, slips one level to the inside, and everything
after it slips with it. `rows` says where the lines land, and `emits` that they land there; a program
without such a clause gets its `layout`, and no other program does.
-/

namespace Flowline

/-! ### Where the lines land -/

/-- By how much a clause slips. -/
def slip (ended : Bool) (closing : Option String) : Nat := if ended && closing.isNone then 1 else 0

mutual

def Body.slips : Body → Nat
  | .nil => 0
  | .line _ _ next => next.slips
  | .compound _ _ _ body rest next =>
    body.slips + rest.slips (body.endsCompound false) + next.slips

def Clauses.slips {s : Shape} (ended : Bool) : Clauses s → Nat
  | .done _ => 0
  | .clause closing _ _ body more =>
    slip ended closing + body.slips + more.slips (body.endsCompound false)

end

mutual

def Body.rows (d : Nat) : Body → List Row
  | .nil => []
  | .line l _ next => ⟨d, l⟩ :: next.rows d
  | .compound _ head _ body rest next =>
    ⟨d, head⟩ :: (body.rows (d + 1) ++
      (rest.rows (body.endsCompound false) (d + body.slips) ++
        next.rows (d + body.slips + rest.slips (body.endsCompound false))))

def Clauses.rows {s : Shape} (ended : Bool) (d : Nat) : Clauses s → List Row
  | .done _ => []
  | .clause closing head _ body more =>
    ⟨d + slip ended closing, head⟩ :: (body.rows (d + slip ended closing + 1) ++
      more.rows (body.endsCompound false) (d + slip ended closing + body.slips))

end

/-! ### Runs of the compiler -/

/-- What compiling `ts` adds to an emission: nothing, if a statement was refused already. -/
def Emission.andThen (e : Emission) (ts : List Statement) : Emission :=
  match e.refused with
  | some _ => e
  | none =>
    let r := emitAll e.indent ts
    ⟨r.indent, e.lines ++ r.lines, e.passed + r.passed, r.refused⟩

lemma emitAll_append (i : Indent) (ss ts : List Statement) :
    emitAll i (ss ++ ts) = (emitAll i ss).andThen ts := by
  induction ss generalizing i with
  | nil => simp [emitAll, Emission.andThen]
  | cons s ss ih =>
    rw [List.cons_append]
    simp only [emitAll]
    rcases s.emit i with ⟨j, e | line⟩
    · rfl
    · simp only [ih j]
      rcases h : (emitAll j ss).refused with _ | e
      · simp only [Emission.andThen, h, List.append_assoc]
        congr 1
        omega
      · simp [Emission.andThen, h]

/-- From `i`, the statements give the lines `rs` and leave `j`; none is refused. -/
def Emits (i : Indent) (ss : List Statement) (j : Indent) (rs : List Row) : Prop :=
  emitAll i ss = ⟨j, rs.map Row.text, ss.length, none⟩

lemma Emits.nil (i : Indent) : Emits i [] i [] := rfl

lemma Emits.append {i j k : Indent} {ss ts : List Statement} {rs qs : List Row}
    (h₁ : Emits i ss j rs) (h₂ : Emits j ts k qs) : Emits i (ss ++ ts) k (rs ++ qs) := by
  unfold Emits at h₁ h₂ ⊢
  rw [emitAll_append, h₁]
  simp [Emission.andThen, h₂]

lemma Emits.cons {i j k : Indent} {s : Statement} {ts : List Statement} {rs qs : List Row}
    (h₁ : Emits i [s] j rs) (h₂ : Emits j ts k qs) : Emits i (s :: ts) k (rs ++ qs) :=
  h₁.append h₂

lemma emits_blockEnd (i : Indent) (mark : String) :
    Emits i [.blockEnd mark] ⟨i.level - 1, true⟩ [] := rfl

/-- A line stands at the level that its action asks for, and a head opens the next level. -/
lemma emits_line (i : Indent) (l : CodeLine) :
    Emits i [l.statement]
      ⟨(i.forAction l.action).level + (if l.action.opensBlock then 1 else 0), false⟩
      [⟨(i.forAction l.action).level, l⟩] := by
  have hcode := l.code_eq
  unfold Emits CodeLine.statement
  simp only [emitAll, Statement.emit, Indent.write, hcode]
  cases l.action.opensBlock <;> simp [Row.text, Indent.pad, Indent.deeper]

lemma emits_simple (d : Nat) (f : Bool) (l : CodeLine) (h : l.action ∈ simpleActions) :
    Emits ⟨d, f⟩ [l.statement] ⟨d, false⟩ [⟨d, l⟩] := by
  obtain ⟨hopen, hcont⟩ := simple_opens h
  have := emits_line ⟨d, f⟩ l
  simpa [Indent.forAction, hopen, hcont] using this

lemma emits_head (d : Nat) (f : Bool) (l : CodeLine) {s : Shape}
    (h : Shape.opening l.action = some s) :
    Emits ⟨d, f⟩ [l.statement] ⟨d + 1, false⟩ [⟨d, l⟩] := by
  obtain ⟨hopen, hcont⟩ := Shape.opening_opens h
  have := emits_line ⟨d, f⟩ l
  simpa [Indent.forAction, hopen, hcont] using this

/-- The head of a later clause, with the block end before it or without. -/
lemma emits_clause (d : Nat) (ended : Bool) (closing : Option String) (l : CodeLine) {s t : Shape}
    (h : s.adding l.action = some t) :
    Emits ⟨d + 1, ended⟩ ((closing.map Statement.blockEnd).toList ++ [l.statement])
      ⟨d + slip ended closing + 1, false⟩ [⟨d + slip ended closing, l⟩] := by
  obtain ⟨hopen, hcont⟩ := Shape.adding_continues h
  cases closing with
  | some mark =>
    -- the block end has done the step outwards, the clause does none
    have hend := emits_blockEnd ⟨d + 1, ended⟩ mark
    have hline := emits_line ⟨d, true⟩ l
    have := hend.append hline
    simpa [slip, Indent.forAction, hopen, hcont] using this
  | none =>
    have hline := emits_line ⟨d + 1, ended⟩ l
    cases ended <;> simpa [slip, Indent.forAction, Indent.shallower, hopen, hcont] using hline

/-! ### Whole programs -/

mutual

/-- Compiling a body: the lines land in its rows, and the level has grown by its slips. -/
theorem Body.emits (b : Body) (d : Nat) (f : Bool) :
    Emits ⟨d, f⟩ b.statements ⟨d + b.slips, b.endsCompound f⟩ (b.rows d) := by
  cases b with
  | nil => exact Emits.nil _
  | line l simple next => exact (emits_simple d f l simple).cons (next.emits d false)
  | compound shape head opens body rest next =>
    -- the rest of the chain begins inside the clause, wherever its body has slipped to
    have hbody := body.emits (d + 1) false
    have hrest := rest.emits (d + body.slips) (body.endsCompound false)
    have hnext := next.emits (d + body.slips + rest.slips (body.endsCompound false)) true
    have hlevel : d + 1 + body.slips = d + body.slips + 1 := by omega
    rw [hlevel] at hbody
    have hall := (emits_head d f head opens).cons (hbody.append (hrest.append hnext))
    simp only [Body.statements, Body.rows, Body.slips, Body.endsCompound]
    simpa only [Nat.add_assoc, List.cons_append, List.nil_append] using hall

/-- Compiling the rest of a chain, from inside the clause before. -/
theorem Clauses.emits {s : Shape} (c : Clauses s) (d : Nat) (ended : Bool) :
    Emits ⟨d + 1, ended⟩ c.statements ⟨d + c.slips ended, true⟩ (c.rows ended d) := by
  cases c with
  | done mark => exact emits_blockEnd ⟨d + 1, ended⟩ mark
  | clause closing head adds body more =>
    have hhead := emits_clause d ended closing head adds
    have hbody := body.emits (d + slip ended closing + 1) false
    have hmore := more.emits (d + slip ended closing + body.slips) (body.endsCompound false)
    have hlevel : d + slip ended closing + 1 + body.slips =
        d + slip ended closing + body.slips + 1 := by omega
    rw [hlevel] at hbody
    have hall := hhead.append (hbody.append hmore)
    simp only [Clauses.statements, Clauses.rows, Clauses.slips]
    simpa only [Nat.add_assoc, List.append_assoc, List.cons_append, List.nil_append] using hall

end

mutual

lemma Body.closed_iff_slips (b : Body) : b.Closed ↔ b.slips = 0 := by
  cases b with
  | nil => simp [Body.Closed, Body.slips]
  | line l simple next => simpa [Body.Closed, Body.slips] using next.closed_iff_slips
  | compound shape head opens body rest next =>
    have hbody := body.closed_iff_slips
    have hrest := rest.closed_iff_slips (body.endsCompound false)
    have hnext := next.closed_iff_slips
    simp only [Body.Closed, Body.slips, hbody, hrest, hnext]
    omega

lemma Clauses.closed_iff_slips {s : Shape} (c : Clauses s) (ended : Bool) :
    c.Closed ended ↔ c.slips ended = 0 := by
  cases c with
  | done mark => simp [Clauses.Closed, Clauses.slips]
  | clause closing head adds body more =>
    have hslip : (ended = true → closing.isSome = true) ↔ slip ended closing = 0 := by
      cases ended <;> cases closing <;> simp [slip]
    have hbody := body.closed_iff_slips
    have hmore := more.closed_iff_slips (body.endsCompound false)
    simp only [Clauses.Closed, Clauses.slips, hslip, hbody, hmore]
    omega

end

mutual

lemma Body.rows_eq_layout (b : Body) (h : b.slips = 0) (d : Nat) : b.rows d = b.layout d := by
  cases b with
  | nil => rfl
  | line l simple next =>
    have hnext := next.rows_eq_layout h d
    simp only [Body.rows, Body.layout, hnext]
  | compound shape head opens body rest next =>
    simp only [Body.slips, Nat.add_eq_zero_iff] at h
    obtain ⟨⟨hb, hr⟩, hn⟩ := h
    simp only [Body.rows, Body.layout, hb, hr, Nat.add_zero]
    rw [body.rows_eq_layout hb, rest.rows_eq_layout hr, next.rows_eq_layout hn]

lemma Clauses.rows_eq_layout {s : Shape} (c : Clauses s) {ended : Bool} (h : c.slips ended = 0)
    (d : Nat) : c.rows ended d = c.layout d := by
  cases c with
  | done mark => rfl
  | clause closing head adds body more =>
    simp only [Clauses.slips, Nat.add_eq_zero_iff] at h
    obtain ⟨⟨hs, hb⟩, hm⟩ := h
    simp only [Clauses.rows, Clauses.layout, hs, hb, Nat.add_zero]
    rw [body.rows_eq_layout hb, more.rows_eq_layout hm]

end

mutual

lemma Body.rows_map_line (b : Body) (d e : Nat) :
    (b.rows e).map Row.line = (b.layout d).map Row.line := by
  cases b with
  | nil => rfl
  | line l simple next =>
    have hnext := next.rows_map_line d e
    simp only [Body.rows, Body.layout, List.map_cons, hnext]
  | compound shape head opens body rest next =>
    simp only [Body.rows, Body.layout, List.map_cons, List.map_append]
    rw [body.rows_map_line (d + 1), rest.rows_map_line d, next.rows_map_line d]

lemma Clauses.rows_map_line {s : Shape} (c : Clauses s) (d e : Nat) (ended : Bool) :
    (c.rows ended e).map Row.line = (c.layout d).map Row.line := by
  cases c with
  | done mark => rfl
  | clause closing head adds body more =>
    simp only [Clauses.rows, Clauses.layout, List.map_cons, List.map_append]
    rw [body.rows_map_line (d + 1), more.rows_map_line d]

end

def depth : List Row → Nat
  | [] => 0
  | r :: rs => r.level + depth rs

@[simp] lemma depth_nil : depth [] = 0 := rfl
@[simp] lemma depth_cons (r : Row) (rs : List Row) : depth (r :: rs) = r.level + depth rs := rfl

@[simp] lemma depth_append (rs qs : List Row) : depth (rs ++ qs) = depth rs + depth qs := by
  induction rs with
  | nil => simp
  | cons r rs ih =>
    rw [List.cons_append, depth_cons, depth_cons, ih]
    omega

mutual

/-- A slip goes to the inside, and nothing ever makes up for it. -/
lemma Body.depth_layout_le (b : Body) {d e : Nat} (h : d ≤ e) :
    depth (b.layout d) + b.slips ≤ depth (b.rows e) := by
  cases b with
  | nil => simp [Body.layout, Body.rows, Body.slips]
  | line l simple next =>
    have hnext := next.depth_layout_le h
    simp only [Body.layout, Body.rows, Body.slips, depth_cons]
    omega
  | compound shape head opens body rest next =>
    have hbody := body.depth_layout_le (Nat.add_le_add_right h 1)
    have hrest := rest.depth_layout_le (body.endsCompound false)
      (Nat.le_trans h (Nat.le_add_right e body.slips))
    have hnext := next.depth_layout_le (d := d)
      (e := e + body.slips + rest.slips (body.endsCompound false)) (by omega)
    simp only [Body.layout, Body.rows, Body.slips, depth_cons, depth_append]
    omega

lemma Clauses.depth_layout_le {s : Shape} (c : Clauses s) (ended : Bool) {d e : Nat} (h : d ≤ e) :
    depth (c.layout d) + c.slips ended ≤ depth (c.rows ended e) := by
  cases c with
  | done mark => simp [Clauses.layout, Clauses.rows, Clauses.slips]
  | clause closing head adds body more =>
    have hbody := body.depth_layout_le (d := d + 1) (e := e + slip ended closing + 1) (by omega)
    have hmore := more.depth_layout_le (body.endsCompound false) (d := d)
      (e := e + slip ended closing + body.slips) (by omega)
    simp only [Clauses.layout, Clauses.rows, Clauses.slips, depth_cons, depth_append]
    omega

end

/-! ### What is compiled as it is nested -/

/-- **Nesting is kept**: from any level, in any state, the statements of a program whose clauses are
closed where they have to be give its layout, a line for each line and none for anything else, and
come back to the level they began at. -/
theorem emitAll_statements_of_closed (b : Body) (hb : b.Closed) (i : Indent) :
    emitAll i b.statements =
        ⟨⟨i.level, b.endsCompound i.afterEnd⟩, (b.layout i.level).map Row.text,
          b.statements.length, none⟩ ∧
      (b.layout i.level).map (fun r => r.line.statement) =
        b.statements.filter Statement.isLine := by
  have hslips := b.closed_iff_slips.mp hb
  have hrun := b.emits i.level i.afterEnd
  rw [hslips, Nat.add_zero, b.rows_eq_layout hslips] at hrun
  exact ⟨hrun, b.layout_statement i.level⟩

def passLine : CodeLine := ⟨.pass, [], "~", "pass", rfl⟩
def ifLine : CodeLine := ⟨.if_, ["True:"], "~", "if True:", rfl⟩
def elseLine : CodeLine := ⟨.else_, [], "~", "else:", rfl⟩
def tryLine : CodeLine := ⟨.try_, [], ">", "try:", rfl⟩
def exceptLine : CodeLine := ⟨.except, ["其他错误:"], "~", "except Exception:", rfl⟩
def finallyLine : CodeLine := ⟨.finally_, [], "!", "finally:", rfl⟩

def passBody : Body := .line passLine (by decide) .nil

def ifElse (closing : Option String) : Body :=
  .compound .branches ifLine rfl passBody
    (.clause closing elseLine rfl passBody (.done "~")) .nil

/-- A choice inside a guarded block, whose first clause therefore has a block end of its own. -/
def guardedChoice : Body :=
  .compound .handlers tryLine rfl (ifElse none)
    (.clause (some "~") exceptLine rfl passBody
      (.clause none finallyLine rfl passBody (.done "?"))) passBody

lemma guardedChoice_closed : guardedChoice.Closed := by
  rw [Body.closed_iff_slips]
  rfl

/-- A guarded choice inside something else, right after a block end. -/
theorem guardedChoice_emitted :
    guardedChoice.Closed ∧
      emitAll ⟨1, true⟩ guardedChoice.statements =
        ⟨⟨1, false⟩,
          ["    try:", "        if True:", "            pass", "        else:",
            "            pass", "    except Exception:", "        pass", "    finally:",
            "        pass", "    pass"], 13, none⟩ := by
  refine ⟨guardedChoice_closed, ?_⟩
  rw [(emitAll_statements_of_closed guardedChoice guardedChoice_closed ⟨1, true⟩).1]
  rfl

/-! ### Chain style -/

lemma length_row (r : Row) :
    r.text.toList.length = 4 * r.level + r.line.text.length := by
  rw [String.length_toList]
  simp [Row.text, Indent.pad]

lemma length_programText (rs : List Row) :
    (programText rs).length =
      4 * depth rs + ("\n".intercalate (rs.map fun r => r.line.text)).length := by
  unfold programText
  rw [← String.length_toList, ← String.length_toList, String.toList_intercalate,
    String.toList_intercalate]
  induction rs with
  | nil => rfl
  | cons r rs ih =>
    have hrow := length_row r
    cases rs with
    | nil =>
      simp only [List.map_cons, List.map_nil, List.intercalate_singleton, String.length_toList,
        depth_cons, depth_nil] at hrow ⊢
      omega
    | cons q qs =>
      simp only [List.map_cons, List.intercalate_cons_cons, List.length_append,
        String.length_toList, depth_cons] at hrow ih ⊢
      omega

/-- Two texts of the same lines are equal only if the levels add up to the same. -/
lemma depth_eq_of_programText_eq {rs qs : List Row} (hl : rs.map Row.line = qs.map Row.line)
    (h : programText rs = programText qs) : depth rs = depth qs := by
  have htexts := congrArg (List.map CodeLine.text) hl
  simp only [List.map_map, Function.comp_def] at htexts
  have hlen := congrArg String.length h
  rw [length_programText, length_programText, htexts] at hlen
  omega

lemma code_of_emits {p : Program Statement} {j : Indent} {rs : List Row}
    (h : Emits {} p.statements j rs) : p.compile.code = .ok (programText rs) := by
  unfold Emits at h
  simp only [Program.compile, h]
  rfl

lemma compile_code (p : Program Statement) (b : Body) (hp : p.statements = b.statements) :
    p.compile.code = .ok (programText (b.rows 0)) := by
  have hrun : Emits {} b.statements _ (b.rows 0) := b.emits 0 false
  rw [← hp] at hrun
  exact code_of_emits hrun

/-- **Chain style**: a program that closes each chain once, at its end, is compiled as it is nested
if and only if no clause but the last of a chain has a body that ends with a compound statement. -/
theorem compile_chainStyle_iff (p : Program Statement) (b : Body)
    (hp : p.statements = b.statements) (hc : b.InChainStyle) :
    p.compile.code = .ok (programText (b.layout 0)) ↔ b.EndsPlain := by
  rw [← b.closed_iff_endsPlain hc, b.closed_iff_slips, compile_code p b hp]
  constructor
  · intro h
    -- the same lines in a text of the same length leave no room for a slip
    have htext : programText (b.rows 0) = programText (b.layout 0) := by simpa using h
    have hdepth := depth_eq_of_programText_eq (b.rows_map_line 0 0) htext
    have hle := b.depth_layout_le (Nat.le_refl 0)
    omega
  · intro h
    rw [b.rows_eq_layout h]

def handledLine : Body :=
  .compound .handlers tryLine rfl passBody
    (.clause none exceptLine rfl (ifElse none) (.done "~")) .nil

theorem handledLine_compiled :
    handledLine.InChainStyle ∧ handledLine.EndsPlain ∧
      (⟨[[handledLine.statements]]⟩ : Program Statement).compile.code =
        .ok (programText (handledLine.layout 0)) := by
  have hc : handledLine.InChainStyle := by
    simp [handledLine, ifElse, passBody, Body.InChainStyle, Clauses.InChainStyle]
  have hp : handledLine.EndsPlain := by
    simp [handledLine, ifElse, passBody, Body.EndsPlain, Clauses.EndsPlain, Body.endsCompound]
  exact ⟨hc, hp, (compile_chainStyle_iff _ handledLine (by simp [Program.statements]) hc).mpr hp⟩

/-- A choice inside the first branch of a choice, in chain style. -/
def nestedChoice : Body :=
  .compound .branches ifLine rfl (.compound .branches ifLine rfl passBody (.done "~") .nil)
    (.clause none elseLine rfl passBody (.done "~")) .nil

/-- The second branch of the outer choice becomes the second branch of the inner one. -/
theorem nestedChoice_misplaced :
    nestedChoice.InChainStyle ∧
      (⟨[[nestedChoice.statements]]⟩ : Program Statement).compile.code =
        .ok "if True:\n    if True:\n        pass\n    else:\n        pass" ∧
      programText (nestedChoice.layout 0) =
        "if True:\n    if True:\n        pass\nelse:\n    pass" ∧
      (⟨[[nestedChoice.statements]]⟩ : Program Statement).compile.code ≠
        .ok (programText (nestedChoice.layout 0)) := by
  have hc : nestedChoice.InChainStyle := by
    simp [nestedChoice, passBody, Body.InChainStyle, Clauses.InChainStyle]
  have hcode : (⟨[[nestedChoice.statements]]⟩ : Program Statement).compile.code =
      .ok "if True:\n    if True:\n        pass\n    else:\n        pass" := rfl
  have htext : programText (nestedChoice.layout 0) =
      "if True:\n    if True:\n        pass\nelse:\n    pass" := rfl
  refine ⟨hc, hcode, htext, ?_⟩
  rw [hcode, htext]
  simp

end Flowline
