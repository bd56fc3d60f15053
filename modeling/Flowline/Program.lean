import Flowline.Datum
import Flowline.Token

/-!
# Programs

A token becomes one statement, or is refused. The statements of a program are grouped into
segments; a line or an arrow marked `>` is the last of its segment. A program has one flow, or none
if it has no statement.
-/

namespace Flowline

inductive ParseError
  | badState (state : String)
  | danglingArrow
  | unknownAction (word : String)
deriving DecidableEq, Repr

def ParseError.message : ParseError → String
  | badState state => "Invalid line_state: " ++ state
  | danglingArrow => "Arrow missing target"
  | unknownAction word => "Unknown action: " ++ word

inductive Direction
  | right
  | left
deriving DecidableEq, Repr, Inhabited

def Direction.sign : Direction → String
  | right => "->"
  | left => "<-"

inductive Statement
  | line (action : Action) (args : List String) (state : String)
  | block (name : String) (state : String)
  | blockEnd (state : String)
  | arrow (source target : String) (direction : Direction) (state : String)
deriving DecidableEq, Repr, Inhabited

/-- A tree whose leaves are of any kind: flows of segments of leaves. -/
structure Program (α : Type) where
  flows : List (List (List α))
deriving DecidableEq, Repr, Inhabited

/-- Cuts a list after every element that is flagged. -/
def cutAfter {α : Type} : List (α × Bool) → List (List α)
  | [] => []
  | (a, true) :: rest => [a] :: cutAfter rest
  | (a, false) :: rest =>
    match cutAfter rest with
    | [] => [[a]]
    | g :: gs => (a :: g) :: gs

namespace Program

variable {α : Type}

def statements (p : Program α) : List α := p.flows.flatten.flatten

/-- The program of leaves that are flagged where a segment ends. -/
def ofFlagged (xs : List (α × Bool)) : Program α :=
  ⟨match cutAfter xs with
    | [] => []
    | segments => [segments]⟩

end Program

namespace Token

/-- The words that may carry a colon and still be an action. -/
def colonAction? (name : String) : Option Action :=
  if name = "否则" || name = "else" then some .else_
  else if name = "试" || name = "try" then some .try_
  else if name = "终于" || name = "finally" then some .finally_
  else none

/-- The action without the colon at its end, if it has one. -/
def colonName? (action : String) : Option String :=
  if action.toList.getLast? = some ':' then some (String.ofList action.toList.dropLast) else none

def dropColon (word : String) : String := (colonName? word).getD word

/-- The first arrow among the words, a right one if there is any, and the word after it. -/
def arrow? (args : List String) : Option (Direction × Option String) :=
  let after (d : Direction) : Option String := (args.dropWhile (· != d.sign)).tail.head?
  if args.contains Direction.right.sign then some (.right, after .right)
  else if args.contains Direction.left.sign then some (.left, after .left)
  else none

/-- The statement of a token. A word that closes a block is one whatever the line's mark is; then
the colon decides, then the arrow, then the action. -/
def statement (t : Token) : Except ParseError Statement :=
  if isBlockEnd t.action then .ok (.blockEnd t.state)
  else if !isLineState t.state then .error (.badState t.state)
  else
    match colonName? t.action with
    | some name =>
      match colonAction? name with
      | some action => .ok (.line action [] t.state)
      | none => .ok (.block name t.state)
    | none =>
      match arrow? t.args with
      | some (_, none) => .error .danglingArrow
      | some (.right, some word) => .ok (.arrow t.action word .right t.state)
      | some (.left, some word) => .ok (.arrow word t.action .left t.state)
      | none =>
        match Action.ofWord? t.action with
        | some action => .ok (.line action t.args t.state)
        | none => .error (.unknownAction t.action)

/-- Whether the statement of a token is the last of its segment by its mark. -/
def endsSegment (t : Token) : Bool :=
  t.state == ">" && !isBlockEnd t.action && (colonName? t.action).isNone

end Token

/-- The program of a list of tokens; the first token that is no statement is reported. -/
def parseTokens (ts : List Token) : Except ParseError (Program Statement) := do
  return .ofFlagged ((← ts.mapM Token.statement).zip (ts.map Token.endsSegment))

def parse (source : String) : Except ParseError (Program Statement) :=
  parseTokens ((tokenize source).map (·.1))

/-! ## The data of a tree -/

namespace Statement

def toDatum : Statement → Datum
  | line action args state =>
    .record [("type", .text "Line"), ("action", .text action.id), ("args", .ofWords args),
      ("line_state", .text state)]
  | block name state =>
    .record [("type", .text "Block"), ("name", .text name), ("lines", .list []),
      ("line_state", .text state)]
  | blockEnd state => .record [("type", .text "BLOCK_END"), ("line_state", .text state)]
  | arrow source target direction state =>
    .record [("type", .text "Arrow"), ("from", .text source), ("to", .text target),
      ("direction", .text direction.sign), ("line_state", .text state)]

end Statement

namespace Program

/-- A tree as a record, given the data of its leaves. -/
def toDatum {α : Type} (leaf : α → Datum) (p : Program α) : Datum :=
  .record [("type", .text "Program"), ("flows", .list (p.flows.map fun segments =>
    .record [("type", .text "Flow"), ("segments", .list (segments.map fun lines =>
      .record [("type", .text "Segment"), ("lines", .list (lines.map leaf))]))]))]

end Program

end Flowline
