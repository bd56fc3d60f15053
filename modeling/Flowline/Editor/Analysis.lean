import Flowline.Editor.Keyword
import Flowline.Editor.Token
import Flowline.Program

/-!
# The analysis of a document

Where the compiler stops at the first token that is no statement, the editor goes on and reports
every one. It reads tokens by its own keywords, gathers the statements into segments as it goes,
counts the blocks that are open, and collects the functions and variables that the source defines.
-/

namespace Flowline.Editor

inductive Severity
  | error
  | warning
deriving DecidableEq, Repr

structure Diagnostic where
  message : String
  line : Nat
  severity : Severity
  /-- Where on the line the report belongs; to the whole line if nothing is said. -/
  columns : Option (Nat × Nat)
deriving DecidableEq, Repr

def Diagnostic.ofWarning (w : Warning) : Diagnostic := ⟨w.message, w.line, .warning, none⟩

inductive Symbol
  | function (name : String) (params : List String) (line : Nat)
  | binding (name : String) (line : Nat)
deriving DecidableEq, Repr

namespace Symbol

def name : Symbol → String
  | function n _ _ => n
  | binding n _ => n

def line : Symbol → Nat
  | function _ _ l => l
  | binding _ l => l

def isFunction : Symbol → Bool
  | function .. => true
  | _ => false

end Symbol

structure Placed where
  statement : Statement
  line : Nat
deriving DecidableEq, Repr

def dropLastColon : List String → List String
  | [] => []
  | [w] => [Token.dropColon w]
  | w :: ws => w :: dropLastColon ws

def actionOf? (word : String) : Option Action :=
  listedActions.find? fun a => (Keyword.ofAction a).forms.contains word

/-- The clauses whose word may carry a colon, with the forms of the word. -/
def colonClauses : List (List String × Action) :=
  [(["否则", "else"], .else_), (["试", "try"], .try_), (["终于", "finally"], .finally_)]

/-- The first arrow among the words, a right one if there is any, and its place. -/
def arrowAt? (args : List String) : Option (Direction × Nat) :=
  if args.contains Direction.right.sign then some (.right, args.idxOf Direction.right.sign)
  else if args.contains Direction.left.sign then some (.left, args.idxOf Direction.left.sign)
  else none

/-- The statement of a token; the last argument of a line loses a colon. -/
def statementOf (t : Token) : Except ParseError Statement :=
  if blockEndKeyword.forms.contains t.action then .ok (.blockEnd t.state)
  else if !lineStateKeywords.any (·.forms.contains t.state) then .error (.badState t.state)
  else
    match Token.colonName? t.action, arrowAt? t.args with
    | some name, _ =>
      match colonClauses.find? (·.1.contains name) with
      | some (_, action) => .ok (.line action [] t.state)
      | none => .ok (.block name t.state)
    | none, some (direction, i) =>
      match direction, t.args[i + 1]? with
      | _, none => .error .danglingArrow
      | .right, some word => .ok (.arrow t.action word .right t.state)
      | .left, some word => .ok (.arrow word t.action .left t.state)
    | none, none =>
      match actionOf? t.action with
      | some action => .ok (.line action (dropLastColon t.args) t.state)
      | none => .error (.unknownAction t.action)

/-- Whether the statement of a token opens a block. Two of the clauses do so only with a colon at
the word itself. -/
def opensBlockAt (t : Token) : Statement → Bool
  | .line action _ _ =>
    action.opensBlock &&
      ((Token.colonName? t.action).isSome || (action != .else_ && action != .finally_))
  | _ => false

/-- The name that a statement defines, read from the words of its token. -/
def symbolOf? (t : PlacedToken) : Statement → Option Symbol
  | .line .define _ _ =>
    match t.token.args with
    | [] => none
    | f :: params => some (.function (Token.dropColon f) (params.map Token.dropColon) t.line)
  | .line .set _ _ =>
    match t.token.args with
    | x :: _ :: _ => some (.binding x t.line)
    | _ => none
  | _ => none

def unexpectedEnd (word : String) : String :=
  s!"Unexpected block end '{word}' without matching block opener"

def unclosedBlocks (n : Nat) : String :=
  s!"Unclosed block(s): expected {n} more '终/end' statement(s)"

def refusalText : ParseError → String
  | .badState state => "Invalid line state: " ++ state
  | e => e.message

/-- The report for a token that is no statement. An unknown action is underlined. -/
def errorAt (t : PlacedToken) (e : ParseError) : Diagnostic :=
  ⟨refusalText e, t.line, .error,
    match e with
    | .unknownAction _ => some (t.column, t.column + Text.units t.token.action.toList)
    | _ => none⟩

/-- The number of open blocks after a token, and what there is to report at it. -/
def blockStep (depth : Nat) (t : PlacedToken) : Nat × List Diagnostic :=
  match statementOf t.token with
  | .error e => (depth, [errorAt t e])
  | .ok (.blockEnd _) =>
    if depth = 0 then (0, [⟨unexpectedEnd t.token.action, t.line, .warning, none⟩])
    else (depth - 1, [])
  | .ok s => (if opensBlockAt t.token s then depth + 1 else depth, [])

/-- The reports at the tokens, given the number of open blocks. -/
def blockReports : Nat → List PlacedToken → List Diagnostic
  | _, [] => []
  | depth, t :: ts => (blockStep depth t).2 ++ blockReports (blockStep depth t).1 ts

def openBlocks (ts : List PlacedToken) : Nat := ts.foldl (fun d t => (blockStep d t).1) 0

/-- The report of blocks that are not closed, at the last token. -/
def unclosedReport (ts : List PlacedToken) : List Diagnostic :=
  if openBlocks ts = 0 then []
  else [⟨unclosedBlocks (openBlocks ts), (ts.getLast?.map (·.line)).getD 1, .warning, none⟩]

def placedStatements (ts : List PlacedToken) : List (PlacedToken × Statement) :=
  ts.filterMap fun t => (statementOf t.token).toOption.map (t, ·)

structure Gathering where
  closed : List (List Placed) := []
  current : List Placed := []

namespace Gathering

/-- Adds a statement to the current segment, and closes the segment if it is its last. -/
def add (g : Gathering) (p : Placed) (last : Bool) : Gathering :=
  if last then ⟨g.closed ++ [g.current ++ [p]], []⟩ else ⟨g.closed, g.current ++ [p]⟩

/-- One more token; a token that is no statement changes nothing. -/
def take (g : Gathering) (t : PlacedToken) : Gathering :=
  match statementOf t.token with
  | .ok s => g.add ⟨s, t.line⟩ t.token.endsSegment
  | .error _ => g

/-- The segments, with the current one if there is something in it. -/
def segments (g : Gathering) : List (List Placed) :=
  if g.current.isEmpty then g.closed else g.closed ++ [g.current]

/-- The program: a flow of the segments, or none. -/
def program (g : Gathering) : Program Placed :=
  ⟨if g.segments.isEmpty then [] else [g.segments]⟩

end Gathering

structure Analysis where
  program : Program Placed
  diagnostics : List Diagnostic
  symbols : List Symbol
deriving DecidableEq, Repr

def analyze (source : List Char) : Analysis :=
  let ts := tokens source
  let ss := placedStatements ts
  { program := (ts.foldl Gathering.take {}).program
    diagnostics :=
      (warnings source).map Diagnostic.ofWarning ++ blockReports 0 ts ++ unclosedReport ts
    symbols := ss.filterMap fun (t, s) => symbolOf? t s }

namespace Analysis

def functions (a : Analysis) : List Symbol := a.symbols.filter Symbol.isFunction

def bindings (a : Analysis) : List Symbol := a.symbols.filter fun s => !s.isFunction

end Analysis

def Placed.toDatum (p : Placed) : Datum :=
  .record <|
    (match p.statement with
    | .line action args state =>
      [("type", .text "Line"), ("action", .text action.id), ("args", .ofWords args),
        ("lineState", .text state)]
    | .block name state =>
      [("type", .text "Block"), ("name", .text name), ("lineState", .text state)]
    | .blockEnd state => [("type", .text "BLOCK_END"), ("lineState", .text state)]
    | .arrow source target direction state =>
      [("type", .text "Arrow"), ("from", .text source), ("to", .text target),
        ("direction", .text direction.sign), ("lineState", .text state)]) ++
      [("lineno", .int p.line)]

end Flowline.Editor
