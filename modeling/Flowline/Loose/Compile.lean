import Flowline.Emit.Compile
import Flowline.Fault

/-!
# Compiling loose trees

A tree that comes as data is compiled statement by statement like any other. Where a line carries an
identifier of an action and a list of words, it is compiled as a statement. Where it does not, the
outcome depends on which part of the data the action looks at first, and this module says which
fault that is. A few actions also accept data other than words: a number stands for itself, and a
text in place of a list stands for its characters.
-/

namespace Flowline.Loose

def isNumber (d : Datum) : Except Fault Bool :=
  match d with
  | .text s => .ok (isNumeral s)
  | .null => .ok false
  | .bool b => .ok b
  | .int n => .ok (n != 0)
  | .real x => .ok (x != 0.0)
  | .list items => if items.isEmpty then .ok false else .error .wrongKind
  | .record fields => if fields.isEmpty then .ok false else .error .wrongKind

def isNameDatum : Datum → Except Fault Bool
  | .text s => .ok (isName s)
  | _ => .error .noOperation

/-- Renders loose data as a value: a word by the given rule, nothing as an empty text, a number as
itself. -/
def render (rule : String → String) : Datum → Except Fault Datum
  | .text s => .ok (.text (rule s))
  | d => do return if ← isNumber d then d else .text (enquote "")

def wordOf : Datum → Except Fault String
  | .text s => .ok s
  | _ => .error .noOperation

/-- The elements as words that can be joined. -/
def joinable (ds : List Datum) : Except Fault (List String) :=
  ds.mapM fun
    | .text s => .ok s
    | _ => .error .wrongKind

inductive Args
  /-- A list, or the characters of a text. -/
  | items (ds : List Datum)
  /-- A record, which has a size and names but no positions. -/
  | names (keys : List String)
  /-- Something that is no collection. -/
  | single

def Args.ofDatum : Datum → Args
  | .list ds => .items ds
  | .text s => .items (s.toList.map fun c => .text c.toString)
  | .record fields => .names (fields.map (·.1))
  | _ => .single

def Args.size : Args → Except Fault Nat
  | items ds => .ok ds.length
  | names ks => .ok ks.length
  | single => .error .wrongKind

def Args.at (n : Nat) : Args → Except Fault Datum
  | items ds =>
    match ds[n]? with
    | some d => .ok d
    | none => .error .outOfRange
  | names _ => .error (.missingKey (.int n))
  | single => .error .wrongKind

def Args.from (n : Nat) : Args → Except Fault (List Datum)
  | items ds => .ok (ds.drop n)
  | _ => .error .wrongKind

def Args.words : Args → Except Fault (List String)
  | items ds => joinable ds
  | names ks => .ok ks
  | single => .error .wrongKind

def callOf (f : Datum) (args : List Datum) : Except Fault String := do
  let values ← joinable (← args.mapM (render operand))
  return f.display ++ "(" ++ ", ".intercalate values ++ ")"

def operationOf (sign : String) (left right : Datum) : Except Fault String := do
  return (← render operand left).display ++ " " ++ sign ++ " " ++ (← render operand right).display

def emitError {α : Type} (e : EmitError) : Except Fault α := .error (.emit e)

/-- The condition of loose arguments, and the arguments as it leaves them. -/
def conditionOf (d : Datum) : Datum × Except Fault String :=
  match d with
  | .list ds =>
    match ds.getLast? with
    | none => (d, .ok (operatorText ""))
    | some (.text w) =>
      let ds := ds.dropLast ++ [.text (dropColons w)]
      (.list ds, settled ds)
    | some _ => (d, .error .noOperation)
  | .text s =>
    (d, if s.toList.getLast? = some ':' then .error .wrongKind
      else settled (s.toList.map fun c => .text c.toString))
  | .record fields =>
    (d, if fields.isEmpty then .ok (operatorText "") else .error (.missingKey (.int (-1))))
  | d => (d, .error .wrongKind)
where
  /-- The condition once the colons are off. -/
  settled (ds : List Datum) : Except Fault String := do
    let operators := ds.any fun
      | .text w => w == "是" || w == "或"
      | _ => false
    match ds with
    | f :: x :: rest =>
      if (← isNameDatum f) && !operators then callOf f (x :: rest)
      else return operatorText (" ".intercalate (← joinable ds))
    | _ => return operatorText (" ".intercalate (← joinable ds))

def printOf (d : Datum) : Except Fault String := do
  if !d.truthy then return printCode []
  let args := Args.ofDatum d
  if (← args.size) = 1 then
    let first ← args.at 0
    if ← isNameDatum first then return printCode [← wordOf first]
  return "print(" ++ textLiteral (← args.words) ++ ")"

def returnOf (d : Datum) : Except Fault String := do
  if !d.truthy then return returnCode []
  return returnCode [" ".intercalate (← (Args.ofDatum d).words)]

def callCodeOf (d : Datum) : Except Fault String := do
  if !d.truthy then emitError .missingCallee
  else
    let args := Args.ofDatum d
    callOf (← args.at 0) (← args.from 1)

def setOf (d : Datum) : Except Fault String := do
  let args := Args.ofDatum d
  let size ← args.size
  if size < 2 then emitError .missingValue
  else
    let name ← wordOf (← args.at 0)
    if !isName name then emitError (.badVariable name)
    else
      let value ← do
        let second ← args.at 1
        match ← args.from 2 with
        | [] =>
          let word ← wordOf second
          if callableWords.contains word then pure (word ++ "()")
          else pure (← render operand second).display
        | [x] =>
          match second.text?.bind operation? with
          | some op => emitError (.missingOperand op)
          | none => pure (second.display ++ "(" ++ (← render operand x).display ++ ")")
        | x :: y :: rest =>
          match second.text?.bind operation? with
          | some op =>
            if rest.isEmpty then operationOf (op.sign?.getD "") x y
            else emitError (.surplusOperand op)
          | none => callOf second (x :: y :: rest)
      return name ++ " = " ++ value

def arithmeticOf (sign : String) (d : Datum) : Except Fault String := do
  let args := Args.ofDatum d
  if (← args.size) ≠ 3 then emitError .badArithmetic
  else
    let (result, left, right) ←
      match args with
      | .items [a, b, c] => pure (a, b, c)
      | .names [a, b, c] => pure (Datum.text a, Datum.text b, Datum.text c)
      | _ => .error .wrongKind
    let name ← wordOf result
    if isName name then return name ++ " = " ++ (← operationOf sign left right)
    else emitError (.badResult name)

def defineOf (d : Datum) : Except Fault String := do
  if !d.truthy then emitError .missingFunctionName
  else
    let args := Args.ofDatum d
    let name ← wordOf (← args.at 0)
    let params ← (← args.from 1).mapM wordOf
    return "def " ++ dropColons name ++ "(" ++ ", ".intercalate (params.map dropColons) ++ "):"

def loopOf (d : Datum) : Except Fault String := do
  let args := Args.ofDatum d
  if (← args.size) < 3 then emitError .badLoop
  else
    let var ← args.at 0
    let second ← args.at 1
    let source ← joinable (← args.from (if second.text? = some "in" then 2 else 1))
    return "for " ++ var.display ++ " in " ++ dropColons (" ".intercalate source) ++ ":"

def exceptOf (d : Datum) : Except Fault String := do
  if !d.truthy then return exceptCode []
  else return exceptCode [← wordOf (← (Args.ofDatum d).at 0)]

def conditionCodeOf (action : Action) (keyword : String) (d : Datum) :
    Datum × Except Fault String :=
  if !d.truthy then (d, emitError (.missingCondition action))
  else
    let (d, c) := conditionOf d
    (d, c.map fun c => keyword ++ " " ++ c ++ ":")

/-- The code of a line with loose arguments, and the arguments as it leaves them. -/
def code (action : Action) (d : Datum) : Datum × Except Fault String :=
  match action with
  | .print => (d, printOf d)
  | .set => (d, setOf d)
  | .call => (d, callCodeOf d)
  | .define => (d, defineOf d)
  | .giveBack => (d, returnOf d)
  | .if_ => conditionCodeOf .if_ "if" d
  | .elif => conditionCodeOf .elif "elif" d
  | .while_ => conditionCodeOf .while_ "while" d
  | .for_ => (d, loopOf d)
  | .except => (d, exceptOf d)
  | .add => (d, arithmeticOf "+" d)
  | .sub => (d, arithmeticOf "-" d)
  | .mul => (d, arithmeticOf "*" d)
  | .div => (d, arithmeticOf "/" d)
  | .else_ | .break_ | .continue_ | .try_ | .finally_ | .pass =>
    (d, (action.code []).mapError .emit)

def write (i : Indent) (action : Action) (args : Datum) :
    Indent × Datum × Except Fault String :=
  match args.words? with
  | some ws =>
    match i.write action ws, Statement.settle (.line action ws "") with
    | (j, .ok text), .line _ ws _ => (j, .ofWords ws, .ok text)
    | (j, r), _ => (j, args, r.mapError .emit)
  | none =>
    match code action args with
    | (args, .ok text) => (if action.opensBlock then i.deeper else i, args, .ok (i.pad ++ text))
    | (args, .error f) => (i, args, .error f)

/-- What compiling one loose node does: the indentation after it, the node after it, and its lines
or the fault. -/
structure Outcome where
  indent : Indent
  node : Datum
  result : Except Fault (List String)

def kind (d : Datum) : Except Fault Datum := d.field "type" .null

def isKind (name : String) (d : Datum) : Bool := d.text? = some name

/-- The action of a line that comes as data, if it is one. -/
def actionOf (d : Datum) : Option Action := do
  match d with
  | .record fields => Action.ofId? (← (Record.get? fields "action").bind Datum.text?)
  | _ => none

/-- Compiles a line as it stands, without regard to the statement before it. -/
def line (i : Indent) (node : Datum) : Outcome :=
  match node with
  | .record fields =>
    if !isKind "Line" (Record.getD fields "type" .null) then ⟨i, node, emitError .notLine⟩
    else
      match actionOf node with
      | none =>
        ⟨i, node, emitError (.unhandledAction (Record.getD fields "action" .null).display)⟩
      | some action =>
        match Record.get? fields "args" with
        | none =>
          let (j, _, r) := write i action (.list [])
          ⟨j, node, r.map ([·])⟩
        | some args =>
          let (j, args, r) := write i action args
          ⟨j, .record (Record.put fields "args" args), r.map ([·])⟩
  | _ => ⟨i, node, .error .noOperation⟩

/-- Compiles a line after placing a later clause of a chain. -/
def chainedLine (i : Indent) (node : Datum) : Outcome :=
  match node with
  | .record _ =>
    line (match actionOf node with
      | some action => i.forAction action
      | none => i) node
  | _ => ⟨i, node, .error .noOperation⟩

def statement (i : Indent) (node : Datum) : Outcome :=
  match kind node with
  | .error f => ⟨i, node, .error f⟩
  | .ok (.text "Line") =>
    match chainedLine i node with
    | ⟨j, node, .ok lines⟩ => ⟨{ j with afterEnd := false }, node, .ok lines⟩
    | o => o
  | .ok (.text "Block") => ⟨{ i with afterEnd := false }, node, .ok []⟩
  | .ok (.text "BLOCK_END") => ⟨{ i.shallower with afterEnd := true }, node, .ok []⟩
  | .ok (.text "Arrow") => ⟨i, node, .ok []⟩
  | .ok k => ⟨i, node, emitError (.unknownStatement k.display)⟩

def sequence (each : Indent → Datum → Outcome) (i : Indent) :
    List Datum → Indent × List Datum × Except Fault (List String)
  | [] => (i, [], .ok [])
  | d :: ds =>
    match each i d with
    | ⟨j, d, .error f⟩ => (j, d :: ds, .error f)
    | ⟨j, d, .ok lines⟩ =>
      let (k, ds, r) := sequence each j ds
      (k, d :: ds, r.map (lines ++ ·))

/-- Compiles a node of the given kind whose children stand in the given field. -/
def container (name children : String) (refusal : EmitError)
    (each : Indent → Datum → Outcome) (i : Indent) (node : Datum) : Outcome :=
  match node with
  | .record fields =>
    if !isKind name (Record.getD fields "type" .null) then ⟨i, node, emitError refusal⟩
    else
      match Record.get? fields children with
      | none => ⟨i, node, .ok []⟩
      | some (.list ds) =>
        let (j, ds, r) := sequence each i ds
        ⟨j, .record (Record.put fields children (.list ds)), r⟩
      -- elements of anything but a list are compiled, and the node stays as it is
      | some d =>
        match d.elements with
        | .error f => ⟨i, node, .error f⟩
        | .ok ds =>
          let (j, _, r) := sequence each i ds
          ⟨j, node, r⟩
  | _ => ⟨i, node, .error .noOperation⟩

def segment : Indent → Datum → Outcome := container "Segment" "lines" .notSegment statement

def flow : Indent → Datum → Outcome := container "Flow" "segments" .notFlow segment

/-- Compiles a tree that comes as data; also gives the tree as compiling leaves it. -/
def compile (tree : Datum) : Datum × Except Fault String :=
  let o := container "Program" "flows" .notProgram flow {} tree
  (o.node, o.result.map fun lines => "\n".intercalate lines)

end Flowline.Loose
