import Flowline.Editor.Document
import Flowline.Program

/-!
# Formatting

Formatting goes through the lines with the indentation it has reached and a note whether a block
comment is open. Each line has a new text; an edit is made where it differs from the old one. In
the free layout only blanks at the ends of lines go away.
-/

namespace Flowline.Editor

inductive Layout
  | free
  /-- By one unit for each open block. -/
  | nested (unit : List Char)
deriving DecidableEq, Repr

/-- The options of the editor and the setting of the language. -/
structure FormatOptions where
  /-- The configured width, which wins if it is positive. -/
  indentSize : Int := 0
  tabSize : Int
  insertSpaces : Bool
deriving DecidableEq, Repr

def FormatOptions.layout (o : FormatOptions) : Except EditorFault Layout :=
  let size := if 0 < o.indentSize then o.indentSize else if o.insertSpaces then o.tabSize else 0
  if size = 0 then .ok .free
  else if !o.insertSpaces then .ok (.nested ['\t'])
  else if size < 0 then .error (.badCount size)
  else .ok (.nested (List.replicate size.toNat ' '))

structure FormatState where
  level : Nat := 0
  inComment : Bool := false
deriving DecidableEq, Repr

/-- The first word of a line after its mark. -/
def leadingWord? (text : List Char) : Option String :=
  match (Text.words Text.isEditorBlank text).map String.ofList with
  | [] => none
  | w :: ws => if isLineState w then ws.head? else some w

inductive LineRole
  | close
  | clause
  | open_
  | plain
deriving DecidableEq, Repr

def roleOf (text : List Char) : LineRole :=
  match leadingWord? text with
  | none => .plain
  | some word =>
    let action := Token.dropColon word
    if isBlockEnd word then .close
    else if (Action.ofWord? action).any Action.continuesChain then .clause
    else if !action.isEmpty && text.getLast? == some ':' && !isBlockEnd action then .open_
    else .plain

def indented (unit : List Char) (level : Nat) (text : List Char) : List Char :=
  (List.replicate level unit).flatten ++ text

/-- The new text of a line, with what to keep for the next. -/
def formatLine (layout : Layout) (s : FormatState) (line : List Char) :
    FormatState × List Char :=
  match layout with
  | .free => (s, Text.trimEnd Text.isEditorBlank line)
  | .nested unit =>
    let text := Text.trim Text.isEditorBlank line
    if text.isEmpty then (s, line)
    else if text = ['~', '~'] then ({ s with inComment := !s.inComment }, text)
    else if s.inComment then (s, line)
    else if text.head? = some '#' then (s, indented unit s.level text)
    else
      match roleOf text with
      | .close => ({ s with level := s.level - 1 }, indented unit (s.level - 1) text)
      -- at the outermost level a clause still goes one level further in
      | .clause => ({ s with level := s.level - 1 + 1 }, indented unit (s.level - 1) text)
      | .open_ => ({ s with level := s.level + 1 }, indented unit s.level text)
      | .plain => (s, indented unit s.level text)

def formatLines (layout : Layout) : FormatState → List (List Char) → List (List Char)
  | _, [] => []
  | s, l :: ls => (formatLine layout s l).2 :: formatLines layout (formatLine layout s l).1 ls

namespace Document

/-- The edits that format the lines from `first` on, `count` of them. -/
def formatEdits (d : Document) (layout : Layout) (first count : Nat) : List Edit :=
  let old := (d.lines.drop first).take count
  ((old.zip (formatLines layout {} old)).zipIdx first).filterMap fun ((l, new), n) =>
    if l = new then none else some (.replace (d.lineRange n) new)

def formatRange (d : Document) (o : FormatOptions) (r : Range) :
    Except EditorFault (List Edit) := do
  let layout ← o.layout
  if d.lines.length ≤ r.stop.line then .error .badLine
  else return d.formatEdits layout r.start.line (r.stop.line + 1 - r.start.line)

def format (d : Document) (o : FormatOptions) : Except EditorFault (List Edit) := do
  return d.formatEdits (← o.layout) 0 d.lines.length

end Document

end Flowline.Editor
