import Mathlib.Tactic.Lemma
import Flowline.Emit.Compile

/-!
Structured programs: the nesting that a flat list of statements writes.

A body is a list of lines and compound statements; a compound statement is a chain of clauses, each
with a body of its own. A block end closes the last clause of a chain. After an earlier clause it may
be written or left out, so a program comes with that choice for every clause.

`statements` writes a program out, `layout` says where every one of its lines belongs.
-/

namespace Flowline

/-- A line whose arguments fit its action, with the text it stands for. -/
structure CodeLine where
  action : Action
  args : List String
  state : String
  text : String
  code_eq : action.code args = .ok text

def CodeLine.statement (l : CodeLine) : Statement := .line l.action l.args l.state

def simpleActions : List Action :=
  [.print, .set, .call, .giveBack, .break_, .continue_, .pass, .add, .sub, .mul, .div]

/-- What may still follow in a compound statement. -/
inductive Shape
  | alone
  | branches
  | handlers
deriving DecidableEq, Repr

namespace Shape

def opening : Action → Option Shape
  | .define | .while_ | .for_ => some alone
  | .if_ => some branches
  | .try_ => some handlers
  | _ => none

/-- The clause that an action adds: after the last kind of clause nothing follows. -/
def adding : Shape → Action → Option Shape
  | branches, .elif => some branches
  | branches, .else_ => some alone
  | handlers, .except => some handlers
  | handlers, .finally_ => some alone
  | _, _ => none

lemma opening_opens {a : Action} {s : Shape} (h : opening a = some s) :
    a.opensBlock = true ∧ a.continuesChain = false := by
  cases a <;> simp_all [opening, Action.opensBlock, Action.continuesChain]

lemma adding_continues {s t : Shape} {a : Action} (h : s.adding a = some t) :
    a.opensBlock = true ∧ a.continuesChain = true := by
  cases s <;> cases a <;> simp_all [adding, Action.opensBlock, Action.continuesChain]

end Shape

lemma simple_opens {a : Action} (h : a ∈ simpleActions) :
    a.opensBlock = false ∧ a.continuesChain = false := by
  cases a <;> simp_all [simpleActions, Action.opensBlock, Action.continuesChain]

mutual

/-- Lines and compound statements, one after the other. -/
inductive Body : Type
  | nil
  | line (l : CodeLine) (simple : l.action ∈ simpleActions) (next : Body)
  | compound (shape : Shape) (head : CodeLine) (opens : Shape.opening head.action = some shape)
      (body : Body) (rest : Clauses shape) (next : Body)

/-- The rest of a chain after the body of a clause: its end, or the block end of that clause, if it
is written, and the next clause. Block ends have a mark. -/
inductive Clauses : Shape → Type
  | done {shape : Shape} (mark : String) : Clauses shape
  | clause {shape rest : Shape} (closing : Option String) (head : CodeLine)
      (adds : shape.adding head.action = some rest) (body : Body) (more : Clauses rest) :
      Clauses shape

end

/-! ### The statements that write a program -/

def Statement.isLine : Statement → Bool
  | .line .. => true
  | _ => false

mutual

def Body.statements : Body → List Statement
  | .nil => []
  | .line l _ next => l.statement :: next.statements
  | .compound _ head _ body rest next =>
    head.statement :: (body.statements ++ (rest.statements ++ next.statements))

def Clauses.statements {s : Shape} : Clauses s → List Statement
  | .done mark => [.blockEnd mark]
  | .clause closing head _ body more =>
    (closing.map Statement.blockEnd).toList ++
      head.statement :: (body.statements ++ more.statements)

end

/-- A line and the level it stands at. -/
structure Row where
  level : Nat
  line : CodeLine

def Row.text (r : Row) : String := ({ level := r.level } : Indent).pad ++ r.line.text

def programText (rs : List Row) : String := "\n".intercalate (rs.map Row.text)

mutual

/-- Where the lines of a body at level `d` belong: what is inside a clause one level deeper than the
head of the clause, and all heads of a chain at the level of the first. -/
def Body.layout (d : Nat) : Body → List Row
  | .nil => []
  | .line l _ next => ⟨d, l⟩ :: next.layout d
  | .compound _ head _ body rest next =>
    ⟨d, head⟩ :: (body.layout (d + 1) ++ (rest.layout d ++ next.layout d))

def Clauses.layout {s : Shape} (d : Nat) : Clauses s → List Row
  | .done _ => []
  | .clause _ head _ body more => ⟨d, head⟩ :: (body.layout (d + 1) ++ more.layout d)

end

mutual

/-- The layout holds the lines of the program, each once and in order. -/
lemma Body.layout_statement (b : Body) (d : Nat) :
    (b.layout d).map (fun r => r.line.statement) = b.statements.filter Statement.isLine := by
  cases b with
  | nil => rfl
  | line l simple next =>
    have hnext := next.layout_statement d
    simp only [Body.layout, Body.statements, List.map_cons, List.filter_cons, hnext]
    rfl
  | compound shape head opens body rest next =>
    have hbody := body.layout_statement (d + 1)
    have hrest := rest.layout_statement d
    have hnext := next.layout_statement d
    simp only [Body.layout, Body.statements, List.map_cons, List.map_append, List.filter_append,
      List.filter_cons, hbody, hrest, hnext]
    rfl

lemma Clauses.layout_statement {s : Shape} (c : Clauses s) (d : Nat) :
    (c.layout d).map (fun r => r.line.statement) = c.statements.filter Statement.isLine := by
  cases c with
  | done mark => rfl
  | clause closing head adds body more =>
    have hbody := body.layout_statement (d + 1)
    have hmore := more.layout_statement d
    have hclosing : ((closing.map Statement.blockEnd).toList).filter Statement.isLine = [] := by
      cases closing <;> rfl
    simp only [Clauses.layout, Clauses.statements, List.map_cons, List.map_append,
      List.filter_append, List.filter_cons, hbody, hmore, hclosing]
    rfl

end

/-- Whether the last statement of a body is a compound one; `before` if it has no statement. -/
def Body.endsCompound (before : Bool) : Body → Bool
  | .nil => before
  | .line _ _ next => next.endsCompound false
  | .compound _ _ _ _ _ next => next.endsCompound true

mutual

/-- Every clause but the last of its chain has its block end written if its body ends with a compound
statement. -/
def Body.Closed : Body → Prop
  | .nil => True
  | .line _ _ next => next.Closed
  | .compound _ _ _ body rest next =>
    body.Closed ∧ rest.Closed (body.endsCompound false) ∧ next.Closed

/-- `ended` says whether the body before ends with a compound statement. -/
def Clauses.Closed {s : Shape} (ended : Bool) : Clauses s → Prop
  | .done _ => True
  | .clause closing _ _ body more =>
    (ended = true → closing.isSome = true) ∧ body.Closed ∧ more.Closed (body.endsCompound false)

end

mutual

/-- No clause but the last of its chain has its block end written. -/
def Body.InChainStyle : Body → Prop
  | .nil => True
  | .line _ _ next => next.InChainStyle
  | .compound _ _ _ body rest next =>
    body.InChainStyle ∧ rest.InChainStyle ∧ next.InChainStyle

def Clauses.InChainStyle {s : Shape} : Clauses s → Prop
  | .done _ => True
  | .clause closing _ _ body more => closing = none ∧ body.InChainStyle ∧ more.InChainStyle

end

mutual

/-- No clause but the last of its chain has a body that ends with a compound statement. -/
def Body.EndsPlain : Body → Prop
  | .nil => True
  | .line _ _ next => next.EndsPlain
  | .compound _ _ _ body rest next =>
    body.EndsPlain ∧ rest.EndsPlain (body.endsCompound false) ∧ next.EndsPlain

def Clauses.EndsPlain {s : Shape} (ended : Bool) : Clauses s → Prop
  | .done _ => True
  | .clause _ _ _ body more =>
    ended = false ∧ body.EndsPlain ∧ more.EndsPlain (body.endsCompound false)

end

mutual

/-- In chain style, what has to be closed is what may not be there. -/
lemma Body.closed_iff_endsPlain (b : Body) (h : b.InChainStyle) : b.Closed ↔ b.EndsPlain := by
  cases b with
  | nil => exact Iff.rfl
  | line l simple next => exact next.closed_iff_endsPlain h
  | compound shape head opens body rest next =>
    obtain ⟨hbody, hrest, hnext⟩ := h
    simp only [Body.Closed, Body.EndsPlain]
    rw [body.closed_iff_endsPlain hbody, rest.closed_iff_endsPlain hrest,
      next.closed_iff_endsPlain hnext]

lemma Clauses.closed_iff_endsPlain {s : Shape} (c : Clauses s) {ended : Bool}
    (h : c.InChainStyle) : c.Closed ended ↔ c.EndsPlain ended := by
  cases c with
  | done mark => exact Iff.rfl
  | clause closing head adds body more =>
    obtain ⟨rfl, hbody, hmore⟩ := h
    simp only [Clauses.Closed, Clauses.EndsPlain]
    rw [body.closed_iff_endsPlain hbody, more.closed_iff_endsPlain hmore]
    simp

end

end Flowline
