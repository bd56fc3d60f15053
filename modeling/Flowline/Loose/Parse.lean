import Flowline.Fault

/-!
# Parsing loose tokens

Tokens that come as data are parsed like others. A token whose parts are texts and words is a
`Token`; for any other token this module says which fault it raises, or which node it still gives.
-/

namespace Flowline.Loose

/-- A token that comes as data, with its parts unchecked. -/
structure Parts where
  action : Datum
  args : Datum
  state : Datum

/-- The parts of a token, in the order in which they are asked for. -/
def Parts.ofDatum (d : Datum) : Except Fault Parts := do
  return ⟨← d.entry "raw_action", ← d.entry "raw_args", ← d.entry "line_state"⟩

/-- Whether a word occurs among loose arguments: as an element, as a part of a text, or as the name
of a field. -/
def occurs (word : String) : Datum → Except Fault Bool
  | .list ds => .ok (ds.any fun d => d.text? = some word)
  | .text s => .ok (Text.contains word.toList s.toList)
  | .record fields => .ok (fields.any fun e => e.1 == word)
  | _ => .error .wrongKind

/-- What comes directly after the first place where a word occurs. -/
def following (word : String) : Datum → Except Fault (Option Datum)
  | .list ds => .ok (ds.dropWhile (fun d => d.text? != some word)).tail.head?
  | .text s =>
    .ok (((Text.indexOf? word.toList s.toList).bind fun i => s.toList[i + 1]?).map fun c =>
      .text c.toString)
  | _ => .error .noOperation

def lineNode (action : Action) (args state : Datum) : Datum :=
  .record [("type", .text "Line"), ("action", .text action.id), ("args", args),
    ("line_state", state)]

/-- The node of a token that comes as data, and whether it is the last of its segment. -/
def node (p : Parts) : Except Fault (Datum × Bool) := do
  if p.action.key?.isNone then .error .wrongKind
  else if p.action.text?.any isBlockEnd then
    return (.record [("type", .text "BLOCK_END"), ("line_state", p.state)], false)
  else if p.state.key?.isNone then .error .wrongKind
  else if !p.state.text?.any isLineState then .error (.parse (.badState p.state.display))
  else
    let right ← occurs Direction.right.sign p.args
    let left ← if right then pure false else occurs Direction.left.sign p.args
    match p.action with
    | .text action =>
      match Token.colonName? action with
      | some name =>
        match Token.colonAction? name with
        | some a => return (lineNode a (.list []) p.state, false)
        | none =>
          return (.record [("type", .text "Block"), ("name", .text name), ("lines", .list []),
            ("line_state", p.state)], false)
      | none =>
        let last := p.state.text? = some ">"
        if right || left then
          let direction := if right then Direction.right else .left
          match ← following direction.sign p.args with
          | none => .error (.parse .danglingArrow)
          | some word =>
            let (source, target) := if right then (p.action, word) else (word, p.action)
            return (.record [("type", .text "Arrow"), ("from", source), ("to", target),
              ("direction", .text direction.sign), ("line_state", p.state)], last)
        else
          match Action.ofWord? action with
          | some a => return (lineNode a p.args p.state, last)
          | none => .error (.parse (.unknownAction action))
    | _ => .error .noOperation

def parseTokens (tokens : Datum) : Except Fault Datum := do
  let nodes ← (← tokens.elements).mapM fun t => do node (← Parts.ofDatum t)
  return (Program.ofFlagged nodes).toDatum id

end Flowline.Loose
