import Flowline.Emit.Compile
import Flowline.Flow.Intents
import Flowline.Flow.Router
import Flowline.Lexicon.Stock
import Flowline.Script.Run
import Flowline.Text.LowerTable

/-!
# The command line

The command reads a source file and takes it through one of two pipelines: its lines are compiled
to a program, which may also be run, or its arrows become a flow, which is run. In the end it shows
the tree of the source. Without a word on it the arrows decide, then the lines.
-/

namespace Flowline.CommandLine

/-- What the command depends on besides its arguments. -/
structure Setting where
  edition : Lexicon.Edition := .standalone
  /-- Whether the first format of lexicons can be read. -/
  hasReader : Bool := true
  /-- Whether lines can be compiled. -/
  hasCompiler : Bool := true
  /-- What the lexicon holds before the command loads its own. -/
  lexicon : Lexicon := {}
  http : Http := .failure "no response configured"
  input : List Char := []

inductive Stop
  | exit (code : Int)
  | fault (fault : Fault)
  /-- The program that it ran did not finish. -/
  | broken (ending : Script.Ending)

structure Report where
  world : World
  stop : Stop

def usage : String :=
  "Usage: python tools/catapillar.py <file.cat> [--mode auto|flow|python] [--exec]"

/-- What the arguments after the path ask for. -/
structure Request where
  mode : String := "auto"
  execute : Bool := false
deriving DecidableEq, Repr

/-- The mode that an argument names, in small letters and without blanks around it. -/
def mode? (arg : String) : Option String :=
  let flag := "--mode=".toList
  if flag.isPrefixOf arg.toList then
    some (String.ofList (Text.lower (Text.trim Text.isBlank (arg.toList.drop flag.length))))
  else none

/-- Takes an argument into account; unknown ones are passed over. -/
def Request.take (r : Request) (arg : String) : Request :=
  match mode? arg with
  | some mode => { r with mode }
  | none => if arg = "--exec" then { r with execute := true } else r

def Request.ofArgs (args : List String) : Request := args.foldl Request.take {}

inductive Pipeline
  | flow
  | lines
deriving DecidableEq, Repr

def isArrow : Statement → Bool
  | .arrow .. => true
  | _ => false

def isLine : Statement → Bool
  | .line .. => true
  | _ => false

def fitting (p : Program Statement) : Pipeline :=
  if p.statements.any isArrow then .flow
  else if p.statements.any isLine then .lines
  else .flow

def pipeline? (mode : String) (p : Program Statement) : Option Pipeline :=
  if mode = "auto" then some (fitting p)
  else if mode = "flow" then some .flow
  else if mode = "python" then some .lines
  else none

def showTree (p : Program Statement) (w : World) : World :=
  (w.printLine "\n=== AST ===").printLine (p.toDatum Statement.toDatum).shown

def complain (text : String) (w : World) : World := w.printLine ("[Catapillar Error] " ++ text)

/-- Compiles the lines of a program, runs them if asked to, and shows the tree. -/
def runLines (s : Setting) (execute : Bool) (p : Program Statement) (w : World) : Report :=
  if !s.hasCompiler then
    ⟨showTree p (complain "python_mapper not available, cannot generate python." w), .exit 0⟩
  else
    let c := p.compile
    match c.code with
    | .error e => ⟨w, .fault (.emit e)⟩
    | .ok code =>
      let w := (w.printLine "=== PYTHON ===").printLine code
      if execute then
        let w := w.printLine "\n=== EXEC ==="
        match Script.run code w.input with
        | (printed, .finished) => ⟨showTree c.tree (w.print printed), .exit 0⟩
        -- a program that ends itself shows no tree
        | (printed, .raised (.ended code)) => ⟨w.print printed, .exit code⟩
        | (printed, ending) => ⟨w.print printed, .broken ending⟩
      else ⟨showTree c.tree w, .exit 0⟩

def runArrows (s : Setting) (lex : Lexicon) (p : Program Statement) (w : World) : Report :=
  let flow := p.flow lex
  let w := (w.printLine "=== FLOW ===").printLine (Datum.ofWords flow).shown
  if flow.isEmpty then ⟨showTree p (w.printLine "No executable flow generated."), .exit 0⟩
  else
    match runFlow ⟨lex, s.http⟩ .robot (flow.map .text) w with
    | (w, none) => ⟨showTree p w, .exit 0⟩
    | (w, some f) => ⟨w, .fault f⟩

def runSource (s : Setting) (lex : Lexicon) (r : Request) (source : String) (w : World) :
    Report :=
  let w := (sourceWarnings source).foldl (fun w t => w.printLine ("[Catapillar Warning] " ++ t)) w
  match parse source with
  | .error e => ⟨complain e.message w, .exit 1⟩
  | .ok p =>
    match pipeline? r.mode p with
    | none =>
      ⟨complain ("Unknown mode: " ++ r.mode ++ ". Use --mode=auto|flow|python") w, .exit 1⟩
    | some .lines => runLines s r.execute p w
    | some .flow => runArrows s lex p w

/-- Runs the command. The first argument is the path of the source, `source` what stands there. -/
def run (s : Setting) (source : Except Fault String) (args : List String) : Report :=
  let w : World := { input := s.input }
  match args with
  | [] => ⟨w.printLine usage, .exit 1⟩
  | _ :: rest =>
    match s.lexicon.loadPaths s.edition s.hasReader Lexicon.startPaths with
    | (_, some f) => ⟨w, .fault f⟩
    | (lex, none) =>
      match source with
      | .error f => ⟨w, .fault f⟩
      | .ok text => runSource s lex (Request.ofArgs rest) text w

end Flowline.CommandLine
