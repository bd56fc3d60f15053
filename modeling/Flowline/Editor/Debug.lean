import Flowline.Editor.Command

/-!
# Debugging

A debug configuration is a record that the editor completes before it starts a session. A session
answers requests; every message it sends has the next number. When it is asked to launch a program it
announces the command line and starts it; what the running program makes it send later is left out.
-/

namespace Flowline.Editor

/-- Whether a value counts as given: neither null nor false nor zero nor an empty text. -/
def isGiven : Datum → Bool
  | .null => false
  | .bool b => b
  | .int n => n != 0
  | .real x => x != 0.0 && !x.isNaN
  | .text s => !s.isEmpty
  | .list _ | .record _ => true

def hasField (r : Record) (name : String) : Bool := isGiven (Record.getD r name .null)

/-- The fields of a configuration that nothing has been said about. -/
def defaultLaunch : Record :=
  [("type", .text languageId), ("name", .text "Run Catapillar File"), ("request", .text "launch"),
    ("program", .text "$\x7bfile\x7d"), ("mode", .text "auto")]

def fillField (r : Record) (name : String) (value : Datum) : Record :=
  if hasField r name then r else Record.put r name value

/-- The directory of the compiler for a session: the configured one, or the folder. -/
def Workspace.sessionRoot (w : Workspace) : String :=
  if w.projectRoot.isEmpty then w.folders.headD "" else w.projectRoot

/-- Completes a configuration. Without a program there is none, and the user is told so. -/
def Workspace.resolveLaunch (w : Workspace) (launch : Record) : Option Record × List Call :=
  let bare := !hasField launch "type" && !hasField launch "request" && !hasField launch "name"
  let launch :=
    if bare && w.source?.isSome then Record.update launch defaultLaunch else launch
  if !hasField launch "program" then (none, [.info "Cannot find a .cat file to run"])
  else
    let launch := fillField launch "catapillarRoot" (.text w.sessionRoot)
    (some (fillField launch "pythonPath" (.text w.interpreter)), [])

/-! ## Sessions -/

/-- A session that is open or has been disposed of, with the number of its next message. -/
structure Session where
  next : Int := 1
  live : Bool := true
deriving DecidableEq, Repr

def optionalField (name : String) : Option Datum → Record
  | some d => [(name, d)]
  | none => []

/-- The answer to a request, with a body or the reason of a refusal. -/
def responseTo (request : Record) (body : Option Datum) (refusal : Option String) (seq : Int) :
    Datum :=
  .record <|
    [("seq", .int seq), ("type", .text "response"), ("success", .bool refusal.isNone)] ++
      optionalField "request_seq" (Record.get? request "seq") ++
      optionalField "command" (Record.get? request "command") ++
      optionalField "body" body ++ optionalField "message" (refusal.map .text)

def eventMessage (event : String) (body : Option Datum) (seq : Int) : Datum :=
  .record <|
    [("seq", .int seq), ("type", .text "event"), ("event", .text event)] ++
      optionalField "body" body

def abilities : Datum :=
  .record [("supportsConfigurationDoneRequest", .bool true), ("supportTerminateDebuggee", .bool true)]

def threadList : Datum :=
  .record [("threads", .list [.record [("id", .int 1), ("name", .text "main")]])]

mutual

/-- A datum inside a message. Only texts, numbers and truth values can be told apart there. -/
def plainText : Datum → String
  | .text s => s
  | .list items => ",".intercalate (plainItems items)
  | .record _ => "[object Object]"
  | d => jsonText d

/-- The elements of a list inside a message; a missing one leaves its place empty. -/
def plainItems : List Datum → List String
  | [] => []
  | .null :: ds => "" :: plainItems ds
  | d :: ds => plainText d :: plainItems ds

end

def commandText : Option Datum → String
  | none => "undefined"
  | some d => plainText d

def launchArguments (request : Record) : Record :=
  match Record.get? request "arguments" with
  | some (.record r) => r
  | _ => []

/-- A field that is given, or a text in its place. -/
def givenOr (r : Record) (name stand : String) : Datum :=
  if hasField r name then Record.getD r name .null else .text stand

/-- The file of the command line for a program: under the given directory, or beside the directory of
the program. There is none if the path is no text. -/
def launchTool (r : Record) : Option String :=
  if hasField r "catapillarRoot" then (Record.getD r "catapillarRoot" .null).text?.map toolPath
  else
    (Record.getD r "program" .null).text?.map fun program =>
      String.ofList (Text.joinPaths [Text.directory program.toList, "..".toList, "tools".toList,
        "catapillar.py".toList])

def announcement (r : Record) (tool : String) : String :=
  "Running: " ++ plainText (givenOr r "pythonPath" "python") ++ " " ++
    " ".intercalate [tool, plainText (Record.getD r "program" .null),
      "--mode=" ++ plainText (givenOr r "mode" "auto"), "--exec"] ++ "\n"

def launchAnswers (request : Record) : List (Int → Datum) :=
  let r := launchArguments request
  if !hasField r "program" then [responseTo request none (some "No program specified")]
  else
    match launchTool r with
    | none => []
    | some tool =>
      [eventMessage "output" (some (.record [("category", .text "console"),
          ("output", .text (announcement r tool))])),
        responseTo request none none]

/-- The messages that answer a request, as functions of their numbers. -/
def answers (request : Record) : List (Int → Datum) :=
  let command := Record.get? request "command"
  match command.bind Datum.text? with
  | some "initialize" => [responseTo request (some abilities) none, eventMessage "initialized" none]
  | some "launch" => launchAnswers request
  | some "disconnect" | some "configurationDone" => [responseTo request none none]
  | some "threads" => [responseTo request (some threadList) none]
  | _ => [responseTo request none (some ("Unsupported command: " ++ commandText command))]

/-- Takes a message: the messages that the session sends, and the session after it. -/
def Session.take (s : Session) (message : Datum) : Session × List Datum :=
  match message with
  | .record r =>
    if (Record.getD r "type" .null).text? = some "request" then
      -- numbers are used up even after the session has been disposed of
      let sent := (answers r).zipIdx.map fun (f, i) => f (s.next + i)
      ({ s with next := s.next + sent.length }, if s.live then sent else [])
    else (s, [])
  | _ => (s, [])

def Session.takeAll (s : Session) : List Datum → Session × List Datum
  | [] => (s, [])
  | m :: ms =>
    let (t, sent) := s.take m
    let (u, more) := t.takeAll ms
    (u, sent ++ more)

/-- Ends a session; it sends nothing any more. -/
def Session.dispose (s : Session) : Session := { s with live := false }

end Flowline.Editor
