import Flowline.Fault

/-!
# Looking through loose trees

What a tree holds, without compiling it: its statements, whether one of them is an action line, and
whether one of them is an arrow. An absent or empty part of the tree counts as holding nothing.
-/

namespace Flowline.Loose

/-- What stands in a field, gone through; nothing if the field is absent or counts as absent. -/
def children (name : String) (d : Datum) : Except Fault (List Datum) := do
  let c ← d.field name (.list [])
  if c.truthy then c.elements else return []

/-- The statements of a tree. Data that are no record have none. -/
def statements (tree : Datum) : Except Fault (List Datum) :=
  match tree with
  | .record _ => do
    (← children "flows" tree).flatMapM fun flow => do
      (← children "segments" flow).flatMapM (children "lines")
  | _ => .ok []

/-- Whether a node is of the given kind; only records have one. -/
def hasKind (name : String) (d : Datum) : Except Fault Bool := do
  return (← d.field "type" .null).text? = some name

/-- Whether one of the statements is an action line, on its own or directly inside a block. -/
def hasLines : List Datum → Except Fault Bool
  | [] => .ok false
  | s :: rest => do
    if ← hasKind "Line" s then return true
    else if ← hasKind "Block" s then
      let inner ← children "lines" s
      if inner.any fun
          | .record fields => (Record.get? fields "type").bind Datum.text? == some "Line"
          | _ => false then return true
      else hasLines rest
    else hasLines rest

def hasArrows : List Datum → Except Fault Bool
  | [] => .ok false
  | s :: rest => do
    if ← hasKind "Arrow" s then return true else hasArrows rest

/-- An arrow on its own, with anything at its ends. -/
structure Arrow where
  source : Datum
  target : Datum
  state : Datum

/-- An arrow has two ends and may have a state. -/
def Arrow.ofList : List Datum → Except Fault Arrow
  | [source, target] => .ok ⟨source, target, .null⟩
  | [source, target, state] => .ok ⟨source, target, state⟩
  | _ => .error .wrongKind

end Flowline.Loose
