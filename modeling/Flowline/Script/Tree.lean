import Flowline.Script.Literal

/-!
# The trees of a generated program

Expressions and statements of the language that programs are compiled to, as far as compiled
programs use it.
-/

namespace Flowline.Script

inductive Arith
  | add | sub | mul | div
deriving DecidableEq, Repr

inductive Comparison
  | eq | ne | lt | gt | le | ge
deriving DecidableEq, Repr

inductive Expr
  | nothing
  | bool (value : Bool)
  | number (value : Number)
  | text (value : String)
  | name (text : String)
  | negate (e : Expr)
  | not (e : Expr)
  | arith (op : Arith) (left right : Expr)
  /-- A chain of comparisons, each with the operand before it. -/
  | compare (first : Expr) (rest : List (Comparison × Expr))
  | and_ (left right : Expr)
  | or_ (left right : Expr)
  | call (callee : Expr) (args : List Expr)
  | attribute (owner : Expr) (name : String)
deriving Inhabited

mutual

/-- A statement. Those that can be out of place know their line. -/
inductive Stmt
  | expr (e : Expr)
  | assign (line : Nat) (name : String) (e : Expr)
  | give (line : Nat) (e : Option Expr)
  | leave (line : Nat)
  | next (line : Nat)
  | pass
  | branch (condition : Expr) (body orelse : List Stmt)
  | repeat_ (line : Nat) (condition : Expr) (body orelse : List Stmt)
  | each (line : Nat) (name : String) (source : Expr) (body orelse : List Stmt)
  | guard (line : Nat) (body : List Stmt) (handlers : List Handler) (orelse final : List Stmt)
  | define (line : Nat) (name : String) (params : List String) (body : List Stmt)

/-- A clause that handles errors: those of a kind, or all. -/
inductive Handler
  | mk (line : Nat) (kind : Option Expr) (body : List Stmt)

end

instance : Inhabited Stmt := ⟨.pass⟩

/-! ## The names a body assigns -/

mutual

/-- The names that a statement assigns, in the body it stands in. -/
def Stmt.assigned : Stmt → List String
  | .assign _ name _ => [name]
  | .branch _ body orelse => assignedAll body ++ assignedAll orelse
  | .repeat_ _ _ body orelse => assignedAll body ++ assignedAll orelse
  | .each _ name _ body orelse => name :: assignedAll body ++ assignedAll orelse
  | .guard _ body handlers orelse final =>
    assignedAll body ++ assignedHandlers handlers ++ assignedAll orelse ++ assignedAll final
  | .define _ name _ _ => [name]
  | .expr _ | .give _ _ | .leave _ | .next _ | .pass => []

def assignedAll : List Stmt → List String
  | [] => []
  | s :: ss => s.assigned ++ assignedAll ss

def assignedHandlers : List Handler → List String
  | [] => []
  | .mk _ _ body :: hs => assignedAll body ++ assignedHandlers hs

end

end Flowline.Script
