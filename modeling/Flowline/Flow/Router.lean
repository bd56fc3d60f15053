import Flowline.Flow.Engine
import Flowline.Flow.Node

/-!
# Routers

A router names the intent that follows an executed one. The robot's router follows a fixed path up
to its decision, where the intent that was found in the input takes over. The client's router
branches on the status of the reply.
-/

namespace Flowline

inductive Router
  | robot
  | client
deriving DecidableEq, Repr, Inhabited

/-- Whether a status counts as success. Only numbers can be compared; an absent or zero status is
no success. -/
def isSuccess (status : Datum) : Except Fault Bool :=
  if !status.truthy then .ok false
  else
    match status with
    | .int n => .ok (200 ≤ n && n < 300)
    | .real x => .ok (200.0 ≤ x && x < 300.0)
    | .bool _ => .ok false
    | _ => .error .wrongKind

def Router.next (r : Router) (current : String) (context : Record) : Except Fault Datum :=
  match r with
  | .robot =>
    if current = "INTENT_INPUT" then .ok (.text "INTENT_PARSE")
    else if current = "INTENT_PARSE" then .ok (.text "INTENT_DECIDE")
    else if current = "INTENT_DECIDE" then
      let found := Record.getD context "resolved_intent" .null
      -- an intent that leads back to the decision counts as none
      .ok (if found.truthy && found.text? != some "INTENT_DECIDE" then found
        else .text "INTENT_FEEDBACK")
    else if current = "INTENT_ACTION" then .ok (.text "INTENT_FEEDBACK")
    else .ok .null
  | .client =>
    if current = "INTENT_INPUT" then .ok (.text "INTENT_PARSE_URL")
    else if current = "INTENT_PARSE_URL" then .ok (.text "INTENT_HTTP_REQUEST")
    else if current = "INTENT_HTTP_REQUEST" then do
      return .text (if ← isSuccess (Record.getD context "status_code" .null)
        then "INTENT_HANDLE_SUCCESS" else "INTENT_HANDLE_ERROR")
    else if current = "INTENT_HANDLE_SUCCESS" then .ok (.text "INTENT_EXTRACT_DATA")
    else if current = "INTENT_EXTRACT_DATA" then .ok (.text "INTENT_OUTPUT_SUCCESS")
    else if current = "INTENT_HANDLE_ERROR" then .ok (.text "INTENT_OUTPUT_ERROR")
    else .ok .null

def stockEngine (env : Surroundings) (router : Router) : Engine World where
  nodes := Node.registered.map fun (intent, n) => (intent, n.step env)
  route intent w := router.next intent w.context

/-- Runs a flow with all registered nodes. Coming back to an executed intent is reported. -/
def runFlow (env : Surroundings) (router : Router) (flow : List Datum) (w : World) :
    World × Option Fault :=
  let r := (stockEngine env router).run flow w
  ((r.ending.notice?.map r.state.printLine).getD r.state, r.ending.fault?)

/-- Runs a flow that comes as data. A text stands for its characters. -/
def Loose.runFlow (env : Surroundings) (router : Router) (flow : Datum) (w : World) :
    World × Option Fault :=
  match flow with
  | .list ds => Flowline.runFlow env router ds w
  | .text s => Flowline.runFlow env router (s.toList.map fun c => .text c.toString) w
  | .record _ => (w, some (.missingKey (.int 0)))
  | _ => (w, some .wrongKind)

end Flowline
