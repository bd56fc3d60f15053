import Mathlib.Tactic.Lemma
import Flowline.Script.Phrase

/-!
Expressions read level by level.

A reader of a level reads an operand of the level below and goes on while a sign of its own follows.
So where the piece after an operand is no sign of the level, the level reads what the one below
reads; and a piece that ends every expression lets an operand pass all the levels.
-/

namespace Flowline.Script

def leaving (r : Except ReadError Expr) (ps : List Piece) : Except ReadError (Expr × List Piece) :=
  r.map fun e => (e, ps)

variable {k : Nat} {ps qs : List Piece} {q : Piece} {r s : Except ReadError Expr}

/-! ### Calls and atoms -/

lemma readCalls_of_ne (f : Expr) (hopen : q.lexeme ≠ .sign "(") (hpoint : q.lexeme ≠ .sign ".") :
    readCalls (k + 1) false f (q :: qs) = .ok (f, q :: qs) := by
  simp [readCalls, after?, hopen, hpoint]

/-- A single piece that is no sign is read as an atom. -/
lemma readUnary_atom {p : Piece} (hp : ∀ t, p.lexeme ≠ .sign t)
    (hatom : readAtom (p :: q :: qs) = leaving r (q :: qs)) (hopen : q.lexeme ≠ .sign "(")
    (hpoint : q.lexeme ≠ .sign ".") :
    readUnary (k + 2) false (p :: q :: qs) = leaving r (q :: qs) := by
  rw [readUnary]
  simp only [after?, hp, if_false, hatom]
  cases r with
  | error e => rfl
  | ok a => exact readCalls_of_ne a hopen hpoint

lemma readAtom_name {p : Piece} {x : String} (hp : p.lexeme = .name x) (hx : x ∉ reservedWords)
    (ps : List Piece) : readAtom (p :: ps) = leaving (.ok (.name x)) ps := by
  have hconstant : constantOf? x = none := by
    have : x ≠ "None" ∧ x ≠ "True" ∧ x ≠ "False" := by
      refine ⟨?_, ?_, ?_⟩ <;> rintro rfl <;> exact hx (by decide)
    simp [constantOf?, this]
  have hreserved : isReserved x = false := by simpa [isReserved] using hx
  simp only [readAtom, hp, hconstant, hreserved, Bool.false_eq_true, if_false]
  rfl

lemma readUnary_minus {p : Piece} (hp : p.lexeme = .sign "-")
    (h : readUnary (k + 1) false ps = leaving r qs) :
    readUnary (k + 2) false (p :: ps) = leaving (r.map .negate) qs := by
  rw [readUnary]
  simp only [after?, hp, if_true, h]
  cases r <;> rfl

/-! ### Products -/

lemma readProduct_of_unary (h : readUnary (k + 1) false ps = leaving r (q :: qs))
    (hq : productSign? q.lexeme = none) : readProduct (k + 2) false ps = leaving r (q :: qs) := by
  rw [readProduct, h]
  cases r with
  | error e => rfl
  | ok a => simp [leaving, Except.map, readProductRest, hq, bind, Except.bind]

lemma readProduct_operate {o : Piece} {op : Arith} {ts : List Piece}
    (hr : readUnary (k + 2) false ps = leaving r (o :: ts)) (ho : productSign? o.lexeme = some op)
    (hs : readUnary (k + 1) false ts = leaving s (q :: qs)) (hq : productSign? q.lexeme = none) :
    readProduct (k + 3) false ps =
      leaving (do return .arith op (← r) (← s)) (q :: qs) := by
  rw [readProduct, hr]
  cases r with
  | error e => rfl
  | ok a =>
    simp only [leaving, Except.map, bind, Except.bind, readProductRest, ho, hs]
    cases s with
    | error e => rfl
    | ok b => simp [readProductRest, hq, pure, Except.pure]

/-! ### Sums -/

lemma readSum_of_product (h : readProduct (k + 1) false ps = leaving r (q :: qs))
    (hq : sumSign? q.lexeme = none) : readSum (k + 2) false ps = leaving r (q :: qs) := by
  rw [readSum, h]
  cases r with
  | error e => rfl
  | ok a => simp [leaving, Except.map, readSumRest, hq, bind, Except.bind]

lemma readSum_operate {o : Piece} {op : Arith} {ts : List Piece}
    (hr : readProduct (k + 2) false ps = leaving r (o :: ts)) (ho : sumSign? o.lexeme = some op)
    (hs : readProduct (k + 1) false ts = leaving s (q :: qs)) (hq : sumSign? q.lexeme = none) :
    readSum (k + 3) false ps = leaving (do return .arith op (← r) (← s)) (q :: qs) := by
  rw [readSum, hr]
  cases r with
  | error e => rfl
  | ok a =>
    simp only [leaving, Except.map, bind, Except.bind, readSumRest, ho, hs]
    cases s with
    | error e => rfl
    | ok b => simp [readSumRest, hq, pure, Except.pure]

/-! ### Whole expressions -/

def Closes (q : Piece) : Prop := q.lexeme = .lineEnd ∨ q.lexeme = .sign ")"

lemma Closes.productSign? (h : Closes q) : productSign? q.lexeme = none := by
  rcases h with h | h <;> rw [h] <;> rfl

lemma Closes.sumSign? (h : Closes q) : sumSign? q.lexeme = none := by
  rcases h with h | h <;> rw [h] <;> rfl

lemma Closes.comparison? (h : Closes q) : comparison? q.lexeme = none := by
  rcases h with h | h <;> rw [h] <;> rfl

lemma Closes.ne_sign (h : Closes q) {t : String} (ht : t ≠ ")") : q.lexeme ≠ .sign t := by
  rcases h with h | h <;> rw [h] <;> simp [ht.symm]

lemma Closes.ne_name (h : Closes q) (x : String) : q.lexeme ≠ .name x := by
  rcases h with h | h <;> rw [h] <;> simp

/-- What is read as a sum up to the end of an expression is the expression. -/
lemma readExpr_of_sum (h : readSum (k + 1) false ps = leaving r (q :: qs))
    (hnot : after? (.name "not") ps = none) (hq : Closes q) :
    readExpr (k + 5) false ps = leaving r (q :: qs) := by
  have hafter : ∀ x, after? (.name x) (q :: qs) = none := by
    intro x
    simp [after?, hq.ne_name x]
  rw [readExpr, readOr, readAnd, readNot]
  simp only [hnot, h]
  cases r with
  | error e => rfl
  | ok a =>
    simp [leaving, Except.map, bind, Except.bind, readComparisons, hq.comparison?, hafter, pure,
      Except.pure]

end Flowline.Script
