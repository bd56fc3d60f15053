import Flowline.Script.Read
import Flowline.Script.Value

/-!
# Running a generated program

Every part of a program is run on a machine, which it changes, and comes to an outcome: it is done,
it raises an error, or the steps it was allowed are exhausted. The outcome of a statement also says
where to go on.

A name inside a function is local if the body assigns it; other names belong to the functions
around it, to the program or to the language, in this order.
-/

namespace Flowline.Script

abbrev Bindings := List (String × Value)

/-- Binds a name, in the place it has if it is bound already. -/
def Bindings.put : Bindings → String → Value → Bindings
  | [], x, v => [(x, v)]
  | (y, w) :: rest, x, v => if y == x then (y, v) :: rest else (y, w) :: put rest x v

structure Machine where
  globals : Bindings := []
  /-- The frames of functions, newest first. -/
  frames : List (Nat × Bindings) := []
  /-- The number of the next frame. -/
  fresh : Nat := 0
  /-- How many functions are being run. -/
  depth : Nat := 0
  printed : String := ""
  /-- The input not read yet. -/
  input : List Char := []

inductive Outcome (α : Type)
  | done (value : α)
  | raised (error : Raised)
  | exhausted

inductive Completion
  | normal
  | leave
  | next
  | give (value : Value)

/-- What a part of a program comes to, with the machine after it. -/
abbrev Result (α : Type) := Machine × Outcome α

/-- Goes on with a value, if there is one. -/
def Result.andThen {α β : Type} (r : Result α) (k : α → Machine → Result β) : Result β :=
  match r with
  | (m, .done a) => k a m
  | (m, .raised e) => (m, .raised e)
  | (m, .exhausted) => (m, .exhausted)

namespace Machine

/-- The result of a calculation that does not change the machine. -/
def lift {α : Type} (m : Machine) : Except Raised α → Result α
  | .ok a => (m, .done a)
  | .error e => (m, .raised e)

def print (m : Machine) (s : String) : Machine := { m with printed := m.printed ++ s }

def frame (m : Machine) (id : Nat) : Bindings := (m.frames.lookup id).getD []

/-- Binds a name where the scope has it. -/
def assign (m : Machine) (scope : Scope) (x : String) (v : Value) : Machine :=
  match scope with
  | [] => { m with globals := m.globals.put x v }
  | (id, _) :: _ =>
    { m with frames := m.frames.map fun (i, b) => if i = id then (i, b.put x v) else (i, b) }

def standard? (x : String) : Option Value :=
  match Builtin.all.find? fun b => b.word == x with
  | some b => some (.builtin b)
  | none =>
    if isKindName x then some (.kind x)
    else if x = constantName then some (.bool true)
    else none

/-- The value of a name that no function around binds. -/
def global (m : Machine) (x : String) : Except Raised Value :=
  match m.globals.lookup x with
  | some v => .ok v
  | none =>
    match standard? x with
    | some v => .ok v
    | none => .error (.unbound x)

/-- The value of a name in the functions around. -/
def outer (m : Machine) : Scope → String → Except Raised Value
  | [], x => m.global x
  | (id, locals) :: scope, x =>
    if locals.contains x then
      match (m.frame id).lookup x with
      | some v => .ok v
      | none => .error (.unboundOuter x)
    else m.outer scope x

def lookup (m : Machine) (scope : Scope) (x : String) : Except Raised Value :=
  match scope with
  | [] => m.global x
  | (id, locals) :: scope =>
    if locals.contains x then
      match (m.frame id).lookup x with
      | some v => .ok v
      | none => .error (.unboundLocal x)
    else m.outer scope x

/-- Prints values with blanks between them, and ends the line. -/
def printAll (m : Machine) : List Value → Result Value
  | [] => (m.print "\n", .done .nothing)
  | [v] => (m.lift v.display).andThen fun s m => (m.print (s ++ "\n"), .done .nothing)
  | v :: vs => (m.lift v.display).andThen fun s m => (m.print (s ++ " ")).printAll vs

def readInput (m : Machine) : Result Value :=
  match m.input with
  | [] => (m, .raised .endOfInput)
  | cs =>
    ({ m with input := (cs.dropWhile (· != '\n')).tail },
      .done (.text (String.ofList (cs.takeWhile (· != '\n')))))

def callBuiltin (m : Machine) : Builtin → List Value → Result Value
  | .print, vs => m.printAll vs
  | .input, [] => m.readInput
  | .input, [v] => (m.lift v.display).andThen fun s m => (m.print s).readInput
  | .float, [] => (m, .done (.real 0.0))
  | .float, [v] => m.lift v.toReal
  | .int, [] => (m, .done (.int 0))
  | .int, [v] => m.lift v.toWhole
  | .str, [] => (m, .done (.text ""))
  | .str, [v] => m.lift (v.display.map .text)
  | .range, vs => m.lift (rangeOf vs)
  | .quit, [] => (m, .raised (.ended 0))
  | .quit, [v] => (m, .raised (.ended v.endingCode))
  | .exit, [] => (m, .raised (.ended 0))
  | .exit, [v] => (m, .raised (.ended v.endingCode))
  | _, _ => (m, .raised .wrongType)

def depthLimit : Nat := 990

/-- Begins a function: its frame holds the arguments. -/
def enter (m : Machine) (params : List String) (args : List Value) : Machine :=
  { m with
    frames := (m.fresh, params.zip args) :: m.frames
    fresh := m.fresh + 1
    depth := m.depth + 1 }

/-- Ends a function. Its frame is kept if a function was defined in it. -/
def exit (m : Machine) (id : Nat) (keep : Bool) : Machine :=
  { m with
    frames := if keep then m.frames else m.frames.filter (·.1 != id)
    depth := m.depth - 1 }

end Machine

def definesFunctions (locals : List String) (b : Bindings) : Bool :=
  b.any fun (x, v) =>
    locals.contains x &&
      match v with
      | .function _ _ _ _ => true
      | _ => false

def numberValue : Number → Value
  | .whole n => .int n
  | .real x => .real x.toFloat

mutual

def eval : Nat → Scope → Expr → Machine → Result Value
  | 0, _, _, m => (m, .exhausted)
  | _ + 1, _, .nothing, m => (m, .done .nothing)
  | _ + 1, _, .bool b, m => (m, .done (.bool b))
  | _ + 1, _, .number n, m => (m, .done (numberValue n))
  | _ + 1, _, .text s, m => (m, .done (.text s))
  | _ + 1, scope, .name x, m => m.lift (m.lookup scope x)
  | n + 1, scope, .negate a, m => (eval n scope a m).andThen fun v m => m.lift v.negate
  | n + 1, scope, .not a, m => (eval n scope a m).andThen fun v m => (m, .done (.bool !v.truthy))
  | n + 1, scope, .arith op a b, m =>
    (eval n scope a m).andThen fun x m =>
      (eval n scope b m).andThen fun y m => m.lift (op.apply x y)
  | n + 1, scope, .compare a rest, m =>
    (eval n scope a m).andThen fun x m => evalChain n scope x rest m
  | n + 1, scope, .and_ a b, m =>
    (eval n scope a m).andThen fun x m => if x.truthy then eval n scope b m else (m, .done x)
  | n + 1, scope, .or_ a b, m =>
    (eval n scope a m).andThen fun x m => if x.truthy then (m, .done x) else eval n scope b m
  | n + 1, scope, .call f args, m =>
    (eval n scope f m).andThen fun g m =>
      (evalAll n scope args m).andThen fun vs m => callValue n g vs m
  | n + 1, scope, .attribute a _, m =>
    (eval n scope a m).andThen fun _ m => (m, .raised .noAttribute)

/-- Whether a chain of comparisons holds; the rest is not looked at once one does not. -/
def evalChain : Nat → Scope → Value → List (Comparison × Expr) → Machine → Result Value
  | 0, _, _, _, m => (m, .exhausted)
  | _ + 1, _, _, [], m => (m, .done (.bool true))
  | n + 1, scope, x, (op, e) :: rest, m =>
    (eval n scope e m).andThen fun y m =>
      (m.lift (op.holds x y)).andThen fun b m =>
        if b then evalChain n scope y rest m else (m, .done (.bool false))

def evalAll : Nat → Scope → List Expr → Machine → Result (List Value)
  | 0, _, _, m => (m, .exhausted)
  | _ + 1, _, [], m => (m, .done [])
  | n + 1, scope, e :: es, m =>
    (eval n scope e m).andThen fun v m =>
      (evalAll n scope es m).andThen fun vs m => (m, .done (v :: vs))

def callValue : Nat → Value → List Value → Machine → Result Value
  | 0, _, _, m => (m, .exhausted)
  | n + 1, .function _ params body scope, args, m =>
    if params.length ≠ args.length then (m, .raised .wrongType)
    else if m.depth ≥ Machine.depthLimit then (m, .raised .tooDeep)
    else
      let id := m.fresh
      -- what is assigned anywhere in the body is local in all of it
      let locals := params ++ assignedAll body
      match runBlock n ((id, locals) :: scope) body (m.enter params args) with
      | (m, r) =>
        let m := m.exit id (definesFunctions locals (m.frame id))
        match r with
        | .done (.give v) => (m, .done v)
        | .done _ => (m, .done .nothing)
        | .raised e => (m, .raised e)
        | .exhausted => (m, .exhausted)
  | _ + 1, .builtin b, args, m => m.callBuiltin b args
  | _ + 1, _, _, m => (m, .raised .wrongType)

def runBlock : Nat → Scope → List Stmt → Machine → Result Completion
  | 0, _, _, m => (m, .exhausted)
  | _ + 1, _, [], m => (m, .done .normal)
  | n + 1, scope, s :: ss, m =>
    match runStmt n scope s m with
    | (m, .done .normal) => runBlock n scope ss m
    | r => r

def runStmt : Nat → Scope → Stmt → Machine → Result Completion
  | 0, _, _, m => (m, .exhausted)
  | n + 1, scope, .expr e, m => (eval n scope e m).andThen fun _ m => (m, .done .normal)
  | n + 1, scope, .assign _ x e, m =>
    (eval n scope e m).andThen fun v m => (m.assign scope x v, .done .normal)
  | _ + 1, _, .give _ none, m => (m, .done (.give .nothing))
  | n + 1, scope, .give _ (some e), m =>
    (eval n scope e m).andThen fun v m => (m, .done (.give v))
  | _ + 1, _, .leave _, m => (m, .done .leave)
  | _ + 1, _, .next _, m => (m, .done .next)
  | _ + 1, _, .pass, m => (m, .done .normal)
  | n + 1, scope, .branch c body orelse, m =>
    (eval n scope c m).andThen fun v m =>
      if v.truthy then runBlock n scope body m else runBlock n scope orelse m
  | n + 1, scope, .repeat_ _ c body orelse, m => runWhile n scope c body orelse m
  | n + 1, scope, .each _ x source body orelse, m =>
    (eval n scope source m).andThen fun v m => runEach n scope x v body orelse m
  | n + 1, scope, .guard _ body handlers orelse final, m =>
    let r :=
      match runBlock n scope body m with
      | (m, .raised e) => handle n scope e handlers m
      | (m, .done .normal) => runBlock n scope orelse m
      | r => r
    match r with
    | (m, .exhausted) => (m, .exhausted)
    | (m, outcome) =>
      -- a last body that does not end normally replaces what came before it
      match runBlock n scope final m with
      | (m, .done .normal) => (m, outcome)
      | r => r
  | _ + 1, scope, .define _ f params body, m =>
    (m.assign scope f (.function f params body scope), .done .normal)

def runWhile : Nat → Scope → Expr → List Stmt → List Stmt → Machine → Result Completion
  | 0, _, _, _, _, m => (m, .exhausted)
  | n + 1, scope, c, body, orelse, m =>
    match eval n scope c m with
    | (m, .raised e) => (m, .raised e)
    | (m, .exhausted) => (m, .exhausted)
    | (m, .done v) =>
      if v.truthy then
        match runBlock n scope body m with
        | (m, .done .normal) => runWhile n scope c body orelse m
        | (m, .done .next) => runWhile n scope c body orelse m
        | (m, .done .leave) => (m, .done .normal)
        | r => r
      else runBlock n scope orelse m

def runEach : Nat → Scope → String → Value → List Stmt → List Stmt → Machine → Result Completion
  | 0, _, _, _, _, _, m => (m, .exhausted)
  | n + 1, scope, x, source, body, orelse, m =>
    match source.next with
    | .error e => (m, .raised e)
    | .ok none => runBlock n scope orelse m
    | .ok (some (v, rest)) =>
      match runBlock n scope body (m.assign scope x v) with
      | (m, .done .normal) => runEach n scope x rest body orelse m
      | (m, .done .next) => runEach n scope x rest body orelse m
      | (m, .done .leave) => (m, .done .normal)
      | r => r

/-- Runs the first clause that takes an error. -/
def handle : Nat → Scope → Raised → List Handler → Machine → Result Completion
  | 0, _, _, _, m => (m, .exhausted)
  | _ + 1, _, e, [], m => (m, .raised e)
  | n + 1, scope, _, .mk _ none body :: _, m => runBlock n scope body m
  | n + 1, scope, e, .mk _ (some kind) body :: hs, m =>
    (eval n scope kind m).andThen fun k m =>
      match k with
      | .kind name => if e.isA name then runBlock n scope body m else handle n scope e hs m
      | _ => (m, .raised .wrongType)

end

inductive Ending
  | finished
  | raised (error : Raised)
  | unreadable (error : ReadError)
  | exhausted

/-- The steps that a run may nest besides the length of its program. -/
def stepLimit : Nat := 100000000

/-- Runs a program with the given input: what it prints, and how it ends. -/
def run (text : String) (input : List Char) : String × Ending :=
  match readProgram text with
  | .error e => ("", .unreadable e)
  | .ok ss =>
    let start : Machine := { globals := [("__name__", .text "__catapillar_exec__")], input }
    match runBlock (stepLimit + ss.length) [] ss start with
    | (m, .done _) => (m.printed, .finished)
    | (m, .raised e) => (m.printed, .raised e)
    | (m, .exhausted) => (m.printed, .exhausted)

end Flowline.Script
