import Flowline.Script.Tree

/-!
# Statements in their places

A program can be read and still not be run: a statement may leave a loop or a function where there
is none, a clause that takes all errors may hide the ones after it, blocks may be nested too deeply,
the name of a constant may be assigned, and a function may have two parameters of one name. The
parameters of one name are looked at first.

Leaving a loop or a function runs the `finally` clauses on the way out, so these are looked at in
the place that is left to, before the statement that leaves.
-/

namespace Flowline.Script

/-! ## Parameters -/

/-- The first name that stands in a list for the second time. -/
def repeated? : List String → List String → Option String
  | _, [] => none
  | seen, x :: xs => if seen.contains x then some x else repeated? (x :: seen) xs

mutual

/-- The first parameter that a function has twice, with the line of the function. -/
def Stmt.repeatedParam? : Stmt → Option (String × Nat)
  | .branch _ body orelse => (repeatedParamAll? body).or (repeatedParamAll? orelse)
  | .repeat_ _ _ body orelse => (repeatedParamAll? body).or (repeatedParamAll? orelse)
  | .each _ _ _ body orelse => (repeatedParamAll? body).or (repeatedParamAll? orelse)
  | .guard _ body handlers orelse final =>
    ((repeatedParamAll? body).or (repeatedParamAll? orelse)).or
      ((repeatedParamHandlers? handlers).or (repeatedParamAll? final))
  | .define line _ params body =>
    ((repeated? [] params).map fun x => (x, line)).or (repeatedParamAll? body)
  | .expr _ | .assign _ _ _ | .give _ _ | .leave _ | .next _ | .pass => none

def repeatedParamAll? : List Stmt → Option (String × Nat)
  | [] => none
  | s :: ss => s.repeatedParam?.or (repeatedParamAll? ss)

def repeatedParamHandlers? : List Handler → Option (String × Nat)
  | [] => none
  | .mk _ _ body :: hs => (repeatedParamAll? body).or (repeatedParamHandlers? hs)

end

/-! ## Places -/

inductive Misfit
  | leave
  | next
  | give
  /-- A clause that takes all errors comes before others. -/
  | bareHandler
  /-- Too many blocks stand around a statement. -/
  | crowded
  /-- The name of a constant is assigned. -/
  | fixedName
deriving DecidableEq, Repr

def Misfit.message : Misfit → String
  | leave => "'break' outside loop"
  | next => "'continue' not properly in loop"
  | give => "'return' outside function"
  | bareHandler => "default 'except:' must be last"
  | crowded => "too many statically nested blocks"
  | fixedName => "cannot assign to __debug__"

/-- The name that is no reserved word and still always means the same. -/
def constantName : String := "__debug__"

def blockLimit : Nat := 20

structure Place where
  /-- How many loops and guarded bodies there are, up to the function. -/
  blocks : Nat := 0
  inFunction : Bool := false
  /-- Whether there is a loop to leave; or what is wrong on the way to it. -/
  toLoop : Except (Misfit × Nat) Bool := .ok false
  /-- What is wrong on the way out of the function. -/
  toEnd : Option (Misfit × Nat) := none

namespace Place

def nested (p : Place) (n : Nat) : Place := { p with blocks := p.blocks + n }

def inLoop (p : Place) : Place := { p.nested 1 with toLoop := .ok true }

/-- A body whose `finally` clause has the given misfit, if any. -/
def guarded (p : Place) (final : Option (Misfit × Nat)) : Place :=
  match final with
  | none => p.nested 1
  | some m => { p.nested 1 with toLoop := .error m, toEnd := some m }

def function : Place := { inFunction := true }

def leaving? (p : Place) (m : Misfit) (line : Nat) : Option (Misfit × Nat) :=
  match p.toLoop with
  | .error found => some found
  | .ok true => none
  | .ok false => some (m, line)

def assigning? (names : List String) (line : Nat) : Option (Misfit × Nat) :=
  if names.contains constantName then some (.fixedName, line) else none

/-- What is wrong with opening so many more blocks, or else with what is in them. -/
def opening? (p : Place) (n line : Nat) (inside : Option (Misfit × Nat)) : Option (Misfit × Nat) :=
  if blockLimit < p.blocks + n then some (.crowded, line) else inside

end Place

mutual

/-- The first misfit of a statement, with its line. -/
def Stmt.misfit? (p : Place) : Stmt → Option (Misfit × Nat)
  | .leave line => p.leaving? .leave line
  | .next line => p.leaving? .next line
  | .give line _ => if p.inFunction then p.toEnd else some (.give, line)
  | .branch _ body orelse => (misfitAll? p body).or (misfitAll? p orelse)
  | .repeat_ line _ body orelse =>
    p.opening? 1 line ((misfitAll? p.inLoop body).or (misfitAll? p orelse))
  | .each line x _ body orelse =>
    p.opening? 1 line (((Place.assigning? [x] line).or (misfitAll? p.inLoop body)).or
      (misfitAll? p orelse))
  | .guard line body handlers orelse final =>
    let last := misfitAll? p final
    let p' := if final.isEmpty then p else p.guarded last
    let inside :=
      if handlers.isEmpty then misfitAll? p' body
      else
        p'.opening? 1 line (((misfitAll? (p'.nested 1) body).or (misfitAll? p' orelse)).or
          (misfitHandlers? (p'.nested 2) handlers))
    (if final.isEmpty then inside else p.opening? 1 line inside).or last
  | .define line f params body =>
    ((Place.assigning? params line).or (misfitAll? .function body)).or (Place.assigning? [f] line)
  | .assign line x _ => Place.assigning? [x] line
  | .expr _ | .pass => none

def misfitAll? (p : Place) : List Stmt → Option (Misfit × Nat)
  | [] => none
  | s :: ss => (s.misfit? p).or (misfitAll? p ss)

/-- The first misfit of clauses that handle errors, given the place of their bodies. -/
def misfitHandlers? (p : Place) : List Handler → Option (Misfit × Nat)
  | [] => none
  | .mk line kind body :: hs =>
    if kind.isNone && !hs.isEmpty then some (.bareHandler, line)
    else (p.opening? 0 line (misfitAll? p body)).or (misfitHandlers? p hs)

end

end Flowline.Script
