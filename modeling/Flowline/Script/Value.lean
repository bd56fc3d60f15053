import Flowline.Decimal.Real
import Flowline.Script.Tree
import Flowline.Text.Quoted

/-!
# Values of a running program

Whole numbers are unbounded; truth values count as numbers; dividing gives a floating-point number.
Operations either give a value or raise an error, and an error has a kind by which it is caught.
-/

namespace Flowline.Script

inductive Builtin
  | print | input | float | int | str | range | quit | exit
deriving DecidableEq, Repr

/-- The frames a body sees, innermost first, each with the names that are local to it. -/
abbrev Scope := List (Nat × List String)

inductive Value
  | nothing
  | bool (value : Bool)
  | int (value : Int)
  | real (value : Float)
  | text (value : String)
  /-- The numbers from `start` by `step` before `stop`. -/
  | range (start stop step : Int)
  | builtin (which : Builtin)
  /-- A kind of errors. -/
  | kind (name : String)
  | function (name : String) (params : List String) (body : List Stmt) (scope : Scope)
deriving Inhabited

/-! ## Errors -/

inductive Raised
  | divisionByZero (ofReals : Bool)
  | unbound (name : String)
  | unboundLocal (name : String)
  | unboundOuter (name : String)
  | wrongType
  | notWhole (text : String)
  | notReal (text : String)
  | undefinedToWhole
  | infiniteToWhole
  | tooLargeForReal
  | quotientTooLarge
  /-- A number of repetitions does not fit a machine word. -/
  | tooManyTimes
  /-- A whole number has too many digits to be written. -/
  | tooLongToWrite
  /-- A text has too many digits to be read as a whole number. -/
  | tooLongToRead (digits : Nat)
  | zeroStep
  | endOfInput
  | tooDeep
  | noAttribute
  /-- The program ends itself, with a code. -/
  | ended (code : Int)
deriving DecidableEq, Repr

namespace Raised

def kind : Raised → String
  | divisionByZero _ => "ZeroDivisionError"
  | unbound _ | unboundOuter _ => "NameError"
  | unboundLocal _ => "UnboundLocalError"
  | wrongType => "TypeError"
  | notWhole _ | notReal _ | undefinedToWhole | tooLongToWrite | tooLongToRead _ | zeroStep =>
    "ValueError"
  | infiniteToWhole | tooLargeForReal | quotientTooLarge | tooManyTimes => "OverflowError"
  | endOfInput => "EOFError"
  | tooDeep => "RecursionError"
  | noAttribute => "AttributeError"
  | ended _ => "SystemExit"

def quote (s : String) : String := String.ofList (Text.quoted s.toList)

/-- The text of an error. One about the type of a value has none, nor has the end of a program. -/
def message? : Raised → Option String
  | divisionByZero ofReals =>
    some (if ofReals then "float division by zero" else "division by zero")
  | unbound x => some s!"name '{x}' is not defined"
  | unboundLocal x =>
    some s!"cannot access local variable '{x}' where it is not associated with a value"
  | unboundOuter x =>
    some (s!"cannot access free variable '{x}' where it is not associated with a value" ++
      " in enclosing scope")
  | wrongType | noAttribute | ended _ => none
  | notWhole s => some ("invalid literal for int() with base 10: " ++ quote s)
  | notReal s => some ("could not convert string to float: " ++ quote s)
  | undefinedToWhole => some "cannot convert float NaN to integer"
  | infiniteToWhole => some "cannot convert float infinity to integer"
  | tooLargeForReal => some "int too large to convert to float"
  | quotientTooLarge => some "integer division result too large for a float"
  | tooManyTimes => some "cannot fit 'int' into an index-sized integer"
  | tooLongToWrite =>
    some (s!"Exceeds the limit ({digitLimit} digits) for integer string conversion; " ++
      "use sys.set_int_max_str_digits() to increase the limit")
  | tooLongToRead n => some (tooManyDigits n)
  | zeroStep => some "range() arg 3 must not be zero"
  | endOfInput => some "EOF when reading a line"
  | tooDeep => some "maximum recursion depth exceeded"

end Raised

/-- The kinds of errors, each with the wider kind it belongs to. -/
def widerKinds : List (String × String) :=
  [("Exception", "BaseException"), ("ArithmeticError", "Exception"),
    ("ZeroDivisionError", "ArithmeticError"), ("OverflowError", "ArithmeticError"),
    ("FloatingPointError", "ArithmeticError"), ("NameError", "Exception"),
    ("UnboundLocalError", "NameError"), ("TypeError", "Exception"), ("ValueError", "Exception"),
    ("UnicodeError", "ValueError"), ("EOFError", "Exception"), ("RuntimeError", "Exception"),
    ("RecursionError", "RuntimeError"), ("NotImplementedError", "RuntimeError"),
    ("LookupError", "Exception"), ("IndexError", "LookupError"), ("KeyError", "LookupError"),
    ("AttributeError", "Exception"), ("ImportError", "Exception"),
    ("ModuleNotFoundError", "ImportError"), ("OSError", "Exception"),
    ("FileNotFoundError", "OSError"), ("PermissionError", "OSError"), ("TimeoutError", "OSError"),
    ("AssertionError", "Exception"), ("StopIteration", "Exception"), ("MemoryError", "Exception"),
    ("SyntaxError", "Exception"), ("IndentationError", "SyntaxError"),
    ("KeyboardInterrupt", "BaseException"), ("SystemExit", "BaseException")]

def isKindName (name : String) : Bool :=
  name == "BaseException" || (widerKinds.lookup name).isSome

/-- Whether the second kind is the first or one of the next `n` wider ones. -/
def belongsTo : Nat → String → String → Bool
  | 0, k, wide => k == wide
  | n + 1, k, wide =>
    k == wide ||
      match widerKinds.lookup k with
      | some k => belongsTo n k wide
      | none => false

def Raised.isA (e : Raised) (kind : String) : Bool := belongsTo widerKinds.length e.kind kind

/-! ## Numbers -/

inductive Amount
  | whole (value : Int)
  | real (value : Float)

def Value.amount? : Value → Option Amount
  | .bool b => some (.whole (if b then 1 else 0))
  | .int n => some (.whole n)
  | .real x => some (.real x)
  | _ => none

def realOfWhole (n : Int) : Except Raised Float :=
  let x := Decimal.nearestInt n
  if x.isInf then .error .tooLargeForReal else .ok x

/-- The floating-point number nearest to the quotient of two whole ones. It has the sign of a
quotient also when it is zero, so that zero divided by a negative number is a negative zero. -/
def quotient (a b : Int) : Except Raised Float :=
  if b = 0 then .error (.divisionByZero false)
  else
    let x := Decimal.nearest a.natAbs b.natAbs
    if x.isInf then .error .quotientTooLarge
    else .ok (if (a < 0) != (b < 0) then -x else x)

def wholePart (x : Float) : Except Raised Int :=
  if x.isNaN then .error .undefinedToWhole
  else if x.isInf then .error .infiniteToWhole
  else
    let b := Decimal.Binary.ofBits x.toBits
    let size : Int := (b.m * Nat.pow 2 b.q.toNat / Nat.pow 2 (-b.q).toNat : Nat)
    .ok (if x < 0 then -size else size)

def Arith.onWholes : Arith → Int → Int → Except Raised Value
  | .add, a, b => .ok (.int (a + b))
  | .sub, a, b => .ok (.int (a - b))
  | .mul, a, b => .ok (.int (a * b))
  | .div, a, b => (quotient a b).map .real

def Arith.onReals : Arith → Float → Float → Except Raised Value
  | .add, a, b => .ok (.real (a + b))
  | .sub, a, b => .ok (.real (a - b))
  | .mul, a, b => .ok (.real (a * b))
  | .div, a, b => if b == 0.0 then .error (.divisionByZero true) else .ok (.real (a / b))

def Arith.onAmounts (op : Arith) : Amount → Amount → Except Raised Value
  | .whole a, .whole b => op.onWholes a b
  | .whole a, .real b => do op.onReals (← realOfWhole a) b
  | .real a, .whole b => do op.onReals a (← realOfWhole b)
  | .real a, .real b => op.onReals a b

def repeated (s : String) (n : Int) : Except Raised Value :=
  let limit : Int := Nat.pow 2 63
  if n < -limit || limit ≤ n then .error .tooManyTimes
  else .ok (.text (String.join (List.replicate n.toNat s)))

/-- The value of an operation. Texts are joined by adding them and repeated by multiplying. -/
def Arith.apply (op : Arith) (a b : Value) : Except Raised Value :=
  match a.amount?, b.amount? with
  | some x, some y => op.onAmounts x y
  | x, y =>
    match op, a, b, x, y with
    | .add, .text s, .text t, _, _ => .ok (.text (s ++ t))
    | .mul, .text s, _, _, some (.whole n) => repeated s n
    | .mul, _, .text t, some (.whole n), _ => repeated t n
    | _, _, _, _, _ => .error .wrongType

def Value.negate (v : Value) : Except Raised Value :=
  match v.amount? with
  | some (.whole n) => .ok (.int (-n))
  | some (.real x) => .ok (.real (-x))
  | none => .error .wrongType

/-! ## Comparing -/

/-- A whole number compared with a finite floating-point one, exactly. -/
def compareMixed (n : Int) (x : Float) : Ordering :=
  let b := Decimal.Binary.ofBits x.toBits
  let size : Int := (b.m * Nat.pow 2 b.q.toNat : Nat)
  compare (n * Nat.pow 2 (-b.q).toNat) (if x < 0 then -size else size)

/-- Two amounts compared; an undefined one compares with none. -/
def Amount.compare? : Amount → Amount → Option Ordering
  | .whole a, .whole b => some (compare a b)
  | .real x, .real y =>
    if x < y then some .lt else if y < x then some .gt else if x == y then some .eq else none
  | .whole a, .real y =>
    if y.isNaN then none
    else if y.isInf then some (if y > 0 then .lt else .gt)
    else some (compareMixed a y)
  | .real x, .whole b =>
    if x.isNaN then none
    else if x.isInf then some (if x > 0 then .gt else .lt)
    else some (compareMixed b x).swap

def Value.same (a b : Value) : Bool :=
  match a.amount?, b.amount? with
  | some x, some y => x.compare? y == some .eq
  | none, none =>
    match a, b with
    | .nothing, .nothing => true
    | .text s, .text t => s == t
    | .builtin f, .builtin g => f == g
    | .kind k, .kind l => k == l
    | .function f _ _ _, .function g _ _ _ => f == g
    | .range a b c, .range d e f => a == d && b == e && c == f
    | _, _ => false
  | _, _ => false

/-- How two values are ordered; only numbers with numbers and texts with texts are. -/
def Value.order (a b : Value) : Except Raised (Option Ordering) :=
  match a.amount?, b.amount? with
  | some x, some y => .ok (x.compare? y)
  | _, _ =>
    match a, b with
    | .text s, .text t => .ok (some (compare s t))
    | _, _ => .error .wrongType

def Comparison.holds : Comparison → Value → Value → Except Raised Bool
  | .eq, a, b => .ok (a.same b)
  | .ne, a, b => .ok (!a.same b)
  | .lt, a, b => return (← a.order b) == some .lt
  | .gt, a, b => return (← a.order b) == some .gt
  | .le, a, b => do
    let o ← a.order b
    return o == some .lt || o == some .eq
  | .ge, a, b => do
    let o ← a.order b
    return o == some .gt || o == some .eq

def Value.truthy : Value → Bool
  | .nothing => false
  | .bool b => b
  | .int n => n != 0
  | .real x => x != 0.0
  | .text s => !s.isEmpty
  | .range start stop step => (0 < step && start < stop) || (step < 0 && stop < start)
  | .builtin _ | .kind _ | .function _ _ _ _ => true

/-! ## Texts of values and values of texts -/

def wholeText (n : Int) : Except Raised String :=
  let s := toString n.natAbs
  if s.length > digitLimit then .error .tooLongToWrite
  else .ok (if n < 0 then "-" ++ s else s)

def Builtin.word : Builtin → String
  | .print => "print"
  | .input => "input"
  | .float => "float"
  | .int => "int"
  | .str => "str"
  | .range => "range"
  | .quit => "quit"
  | .exit => "exit"

def Builtin.all : List Builtin := [.print, .input, .float, .int, .str, .range, .quit, .exit]

def Value.display : Value → Except Raised String
  | .nothing => .ok "None"
  | .bool b => .ok (if b then "True" else "False")
  | .int n => wholeText n
  | .real x => .ok (Decimal.realText x)
  | .text s => .ok s
  | .range a b c => .ok (if c = 1 then s!"range({a}, {b})" else s!"range({a}, {b}, {c})")
  | .builtin .print => .ok "<built-in function print>"
  | .builtin .input => .ok "<built-in function input>"
  | .builtin .quit => .ok "Use quit() or Ctrl-D (i.e. EOF) to exit"
  | .builtin .exit => .ok "Use exit() or Ctrl-D (i.e. EOF) to exit"
  | .builtin f => .ok s!"<class '{f.word}'>"
  | .kind k => .ok s!"<class '{k}'>"
  | .function f _ _ _ => .ok s!"<function {f}>"

def wholeOfText (s : String) : Except Raised Int :=
  match do
      let plain ← (Text.trim Text.isNumeralBlank s.toList).mapM Numeral.plainChar?
      Numeral.dropUnderscores false plain with
  | none => .error (.notWhole s)
  | some cs =>
    let (negative, ds) := Numeral.splitSign cs
    if ds.isEmpty || !ds.all Char.isDigit then .error (.notWhole s)
    else if ds.length > digitLimit then .error (.tooLongToRead ds.length)
    else .ok (if negative then -(Numeral.digitsValue ds : Int) else Numeral.digitsValue ds)

def realOfText (s : String) : Except Raised Float :=
  match Numeral.read? s.toList with
  | some n => .ok n.toFloat
  | none => .error (.notReal s)

def Value.toWhole : Value → Except Raised Value
  | .text s => (wholeOfText s).map .int
  | v =>
    match v.amount? with
    | some (.whole n) => .ok (.int n)
    | some (.real x) => (wholePart x).map .int
    | none => .error .wrongType

def Value.toReal : Value → Except Raised Value
  | .text s => (realOfText s).map .real
  | v =>
    match v.amount? with
    | some (.whole n) => (realOfWhole n).map .real
    | some (.real x) => .ok (.real x)
    | none => .error .wrongType

def Value.bound : Value → Except Raised Int
  | .bool b => .ok (if b then 1 else 0)
  | .int n => .ok n
  | _ => .error .wrongType

def rangeOf : List Value → Except Raised Value
  | [stop] => return .range 0 (← stop.bound) 1
  | [start, stop] => return .range (← start.bound) (← stop.bound) 1
  | [start, stop, step] => do
    let a ← start.bound
    let b ← stop.bound
    let c ← step.bound
    if c = 0 then .error .zeroStep else return .range a b c
  | _ => .error .wrongType

/-- The code of a program that ends itself with a value: a whole number is the code, nothing is
success and everything else is not. -/
def Value.endingCode : Value → Int
  | .nothing => 0
  | .bool b => if b then 1 else 0
  | .int n => n
  | _ => 1

/-- The first element of a value that can be gone through, with what is left; nothing at its end. -/
def Value.next : Value → Except Raised (Option (Value × Value))
  | .range start stop step =>
    .ok (if (Value.range start stop step).truthy then
      some (.int start, .range (start + step) stop step) else none)
  | .text s =>
    match s.toList with
    | [] => .ok none
    | c :: cs => .ok (some (.text (String.ofList [c]), .text (String.ofList cs)))
  | _ => .error .wrongType

end Flowline.Script
