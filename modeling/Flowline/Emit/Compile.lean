import Flowline.Emit.Code
import Flowline.Program

/-!
# Compiling a program

Statements are compiled one after the other. Between them only the indentation is kept: the level
of the next line, and whether the last statement closed a block. A later clause of a chain stands
one level further out than the body before it, unless that body was closed already.

Compiling also settles the statements it has passed: the arguments of a condition lose their colons.
-/

namespace Flowline

structure Indent where
  level : Nat := 0
  afterEnd : Bool := false
deriving DecidableEq, Repr, Inhabited

namespace Indent

def deeper (i : Indent) : Indent := { i with level := i.level + 1 }

/-- One level further out; the outermost level stays. -/
def shallower (i : Indent) : Indent := { i with level := i.level - 1 }

def pad (i : Indent) : String := String.ofList (List.replicate (4 * i.level) ' ')

/-- Writes a line, and goes one level deeper when it opens a block. -/
def write (i : Indent) (action : Action) (args : List String) :
    Indent × Except EmitError String :=
  match action.code args with
  | .ok text => (if action.opensBlock then i.deeper else i, .ok (i.pad ++ text))
  | .error e => (i, .error e)

/-- The level for a later clause of a chain. -/
def forAction (i : Indent) (action : Action) : Indent :=
  if action.continuesChain && !i.afterEnd then i.shallower else i

end Indent

namespace Statement

def emit (i : Indent) : Statement → Indent × Except EmitError (Option String)
  | line action args _ =>
    match (i.forAction action).write action args with
    | (j, .ok text) => ({ j with afterEnd := false }, .ok (some text))
    | (j, .error e) => (j, .error e)
  | block _ _ => ({ i with afterEnd := false }, .ok none)
  | blockEnd _ => ({ i.shallower with afterEnd := true }, .ok none)
  | arrow _ _ _ _ => (i, .ok none)

/-- The statement after it was compiled. -/
def settle : Statement → Statement
  | line .if_ args state => line .if_ (settleArgs args) state
  | line .elif args state => line .elif (settleArgs args) state
  | line .while_ args state => line .while_ (settleArgs args) state
  | s => s

end Statement

structure Emission where
  indent : Indent
  lines : List String
  /-- How many statements were compiled. -/
  passed : Nat
  refused : Option EmitError
deriving DecidableEq, Repr

/-- Compiles statements until one is refused. -/
def emitAll (i : Indent) : List Statement → Emission
  | [] => ⟨i, [], 0, none⟩
  | s :: ss =>
    match s.emit i with
    | (j, .error e) => ⟨j, [], 0, some e⟩
    | (j, .ok line) =>
      let rest := emitAll j ss
      { rest with lines := line.toList ++ rest.lines, passed := rest.passed + 1 }

/-- Applies a function to the first `k` elements of a list of lists. -/
def mapFirst {α : Type} (f : α → α) : Nat → List (List α) → List (List α)
  | _, [] => []
  | k, g :: gs => ((g.take k).map f ++ g.drop k) :: mapFirst f (k - g.length) gs

namespace Program

def mapFirst {α : Type} (f : α → α) (k : Nat) (p : Program α) : Program α :=
  ⟨go k p.flows⟩
where
  go : Nat → List (List (List α)) → List (List (List α))
    | _, [] => []
    | k, flow :: flows => Flowline.mapFirst f k flow :: go (k - flow.flatten.length) flows

/-- A compiled program: the tree as compiling leaves it, and the generated text or the reason why
there is none. -/
structure Compiled where
  tree : Program Statement
  code : Except EmitError String

def compile (p : Program Statement) : Compiled :=
  let e := emitAll {} p.statements
  ⟨p.mapFirst Statement.settle e.passed,
    match e.refused with
    | none => .ok ("\n".intercalate e.lines)
    | some r => .error r⟩

end Program

end Flowline
