import Flowline.Flow.World
import Flowline.Text.Words

/-!
# Nodes

The nodes of the two stock flows. A robot receives a text, looks its intent up and acts on it; an
interface client takes an address, requests it and shows what came of it. Both begin with a node for
the same intent, so which of them runs depends on who registers it.
-/

namespace Flowline

inductive Node
  | askAddress | parseAddress | request | handleSuccess | handleError | extract
  | showSuccess | showError
  | receive | interpret | decide | act | finish
deriving DecidableEq, Repr, Inhabited

namespace Node

def all : List Node :=
  [askAddress, parseAddress, request, handleSuccess, handleError, extract, showSuccess, showError,
    receive, interpret, decide, act, finish]

def intent : Node → String
  | askAddress => "INTENT_INPUT"
  | parseAddress => "INTENT_PARSE_URL"
  | request => "INTENT_HTTP_REQUEST"
  | handleSuccess => "INTENT_HANDLE_SUCCESS"
  | handleError => "INTENT_HANDLE_ERROR"
  | extract => "INTENT_EXTRACT_DATA"
  | showSuccess => "INTENT_OUTPUT_SUCCESS"
  | showError => "INTENT_OUTPUT_ERROR"
  | receive => "INTENT_INPUT"
  | interpret => "INTENT_PARSE"
  | decide => "INTENT_DECIDE"
  | act => "INTENT_ACTION"
  | finish => "INTENT_FEEDBACK"

def ofRobot : Node → Bool
  | receive | interpret | decide | act | finish => true
  | _ => false

def noClientText : String :=
  "Optional dependency 'requests' not installed. pip install requests for HTTP nodes."

def snippetOf : Datum → Except Fault Datum
  | .text s => .ok (.text (String.ofList (s.toList.take 120)))
  | .list ds => .ok (.list (ds.take 120))
  | _ => .error .wrongKind

/-- Enters what a request gave into the context and gives it back. -/
def answered (w : World) (status : Int) (body : String) : World × Except Fault Record :=
  ((w.put "status_code" (.int status)).put "response_body" (.text body),
    .ok [("status_code", .int status), ("response_body", .text body)])

def say (w : World) (text : String) : World × Except Fault Record :=
  (w.printLine text, .ok w.context)

/-- What a node does: the world after it, and the fields it hands over. -/
def run (env : Surroundings) (w : World) : Node → World × Except Fault Record
  | askAddress =>
    let take (w : World) (d : Datum) : World × Except Fault Record :=
      (w.printLine ("[INPUT] URL: " ++ d.display), .ok [("url", d)])
    match w.getD "input" .null with
    | .null =>
      match w.ask "Enter URL: " with
      | (w, .ok line) => take w (.text line)
      | (w, .error f) => (w, .error f)
    | d => take w d
  | parseAddress =>
    match w.getD "url" (.text "") with
    | .text s =>
      let url := String.ofList (Text.trim Text.isBlank s.toList)
      (w.printLine ("[PARSE_URL] Parsed URL: " ++ url), .ok [("url", .text url)])
    | _ => (w, .error .noOperation)
  | request =>
    let url := w.getD "url" .null
    let w := w.printLine ("[HTTP] Requesting: " ++ url.display)
    match env.http with
    | .unavailable => answered (w.printLine ("[HTTP] Error: " ++ noClientText)) 0 noClientText
    | .reply status text =>
      let w := w.send url
      answered (w.printLine ("[HTTP] Status: " ++ toString status)) status text
    | .failure message =>
      let w := w.send url
      answered (w.printLine ("[HTTP] Error: " ++ message)) 0 message
  | handleSuccess => say w "[SUCCESS] Handling success branch"
  | handleError => say w "[ERROR] Handling error branch"
  | extract =>
    match snippetOf (w.getD "response_body" (.text "")) with
    | .ok d => (w.printLine ("[EXTRACT] Snippet: " ++ d.display), .ok [("snippet", d)])
    | .error f => (w, .error f)
  | showSuccess =>
    say w ("[OUTPUT_SUCCESS] Data snippet:\n " ++ (w.getD "snippet" (.text "")).display)
  | showError =>
    say w ("[OUTPUT_ERROR] Error body:\n " ++ (w.getD "response_body" (.text "")).display)
  | receive =>
    let d := w.getD "input" (.text "")
    (w.printLine ("[INPUT] Received: " ++ d.display), .ok [("text", d)])
  | interpret =>
    let d := w.getD "text" (.text "")
    let w := w.printLine "[PARSE] Processing text"
    match env.lexicon.resolve d with
    | .error f => (w, .error f)
    | .ok found =>
      match found.filter (!·.isEmpty) with
      | some intent =>
        (w.printLine ("[PARSE] Resolved intent: " ++ intent),
          .ok [("parsed_text", d), ("resolved_intent", .text intent)])
      | none =>
        (w.printLine "[PARSE] No intent matched",
          .ok [("parsed_text", d), ("resolved_intent", .null)])
  | decide => say w "[DECIDE] Passing control to router"
  | act => say w ("[ACTION] Executing action: " ++ (w.getD "action" (.text "undefined")).display)
  | finish => say w "[FEEDBACK] Flow completed"

/-- A node as a step of a run: the fields it hands over go into the context. -/
def step (env : Surroundings) (n : Node) (w : World) : World × Option Fault :=
  match n.run env w with
  | (w, .ok fields) => ({ w with context := Record.update w.context fields }, none)
  | (w, .error f) => (w, some f)

/-- Registers a node for its intent, in the place of one that was registered for it before. -/
def register (table : List (String × Node)) (n : Node) : List (String × Node) :=
  Record.put table n.intent n

/-- The nodes by their intents, when the client's are registered first and then the robot's. -/
def registered : List (String × Node) := all.foldl register []

end Node

end Flowline
