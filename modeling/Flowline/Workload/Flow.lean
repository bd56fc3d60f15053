import Flowline.CommandLine
import Flowline.Loose.Survey

/-!
# Flows, lexicons and commands of any size

Lexicons with many words, runs of the robot that repeat a few inputs, every step of the two routers,
and invocations of the command.
-/

namespace Flowline.Workload

def allPaths : List String := (Lexicon.shelf .standalone).map (·.1)

def fullLexicon : Lexicon := (({} : Lexicon).loadPaths .standalone true allPaths).1

/-! ## Lexicons -/

def wordsPerIntent : Nat := 10

/-- The made-up intents of a lexicon of about `n` words; there is at least one. -/
def madeUp (n : Nat) : Datum :=
  Lexicon.dataOf ((List.range (max 1 (n / wordsPerIntent))).map fun i =>
    (s!"INTENT_{i}", (List.range wordsPerIntent).map fun j => s!"alias_{i}_{j}"))

def largeLexicon (n : Nat) : Lexicon := (fullLexicon.load (madeUp n)).1

/-- The words that are looked up in it: as many as a quarter of `n`, but no fewer than two hundred,
the made-up words begun anew whenever they end. -/
def lookups (n : Nat) : List String :=
  let size := wordsPerIntent * max 1 (n / wordsPerIntent)
  (List.range (max 200 (n / 4))).map fun i =>
    s!"alias_{i % size / wordsPerIntent}_{i % size % wordsPerIntent}"

/-! ## Runs -/

/-- The inputs of the robot that are repeated: a word of an action, an unknown one, and one that leads
back to where the robot has been. -/
def inputs : List String := ["行动", "???", "理解"]

/-- What the robot found in the input of its run with the given number. -/
def found (number : Nat) : Option String :=
  let input := inputs[number % inputs.length]?.getD ""
  let (w, _) := runFlow { lexicon := fullLexicon } .robot [.text "INTENT_INPUT"]
    { context := [("input", .text input)] }
  (w.getD "resolved_intent" .null).text?

/-- Whether the client gets through when its address answers. -/
def clientFinishes : Bool :=
  (runFlow { lexicon := fullLexicon, http := .reply 200 "ok" } .client [.text "INTENT_PARSE_URL"]
    { context := [("url", .text "http://example/x")] }).2.isNone

def robotSteps : List (String × Record) :=
  [("INTENT_INPUT", []), ("INTENT_PARSE", []),
    ("INTENT_DECIDE", [("resolved_intent", .text "INTENT_ACTION")]), ("INTENT_DECIDE", []),
    ("INTENT_DECIDE", [("resolved_intent", .text "INTENT_DECIDE")]), ("INTENT_ACTION", []),
    ("INTENT_FEEDBACK", []), ("INTENT_UNKNOWN", [])]

def clientSteps : List (String × Record) :=
  [("INTENT_INPUT", []), ("INTENT_PARSE_URL", []),
    ("INTENT_HTTP_REQUEST", [("status_code", .int 200)]),
    ("INTENT_HTTP_REQUEST", [("status_code", .int 500)]), ("INTENT_HTTP_REQUEST", []),
    ("INTENT_HANDLE_SUCCESS", []), ("INTENT_EXTRACT_DATA", []), ("INTENT_HANDLE_ERROR", []),
    ("INTENT_OUTPUT_SUCCESS", [])]

/-! ## Nodes -/

def replies : List Http := [.reply 200 "ok", .reply 500 "no", .failure "no response"]

/-- How many requests `n` rounds over the replies send. -/
def requestsSent (n : Nat) : Nat :=
  ((List.replicate n replies).flatten.flatMap fun http =>
    (Node.request.run { http } { context := [("url", .text "http://example/x")] }).1.requests).length

/-- What reading an address with blanks around it hands over. -/
def readAddress : Except Fault Record :=
  (Node.parseAddress.run {} { context := [("url", .text " http://example/x ")] }).2

def readUnknown : Except Fault Record :=
  (Node.interpret.run { lexicon := fullLexicon } { context := [("text", .text "___nope___")] }).2

def loneArrow : Except Fault Loose.Arrow :=
  Loose.Arrow.ofList [.text "x", .text "y", .text "~"]

/-! ## Commands -/

def printingSource : String := "置 x 1\n印 x"

def command (setting : CommandLine.Setting) (source : String) (args : List String) :
    CommandLine.Stop :=
  (CommandLine.run setting (.ok source) ("main.cat" :: args)).stop

def invocations : List (String × List String) :=
  [(printingSource, ["--mode=python"]), ("输入 -> 解析", ["--mode=flow"]), (printingSource, []),
    ("输入 -> 解析", [])]

def invocation (number : Nat) : CommandLine.Stop :=
  let (source, args) := invocations[number % invocations.length]?.getD ("", [])
  command {} source args

/-- What the program of the printing source prints when it is run. -/
def printedByProgram : String :=
  match parse printingSource with
  | .error _ => ""
  | .ok p =>
    match p.compile.code with
    | .error _ => ""
    | .ok code => (Script.run code []).1

end Flowline.Workload
