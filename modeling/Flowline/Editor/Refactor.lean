import Flowline.Editor.Document

/-!
# Refactorings

A selection on one line can become a variable, and whole lines can become a function. Each
refactoring inserts lines first; the second edit counts the lines of the first.
-/

namespace Flowline.Editor

inductive Extraction
  | toVariable
  | toFunction
deriving DecidableEq, Repr

def Extraction.title : Extraction → String
  | .toVariable => "Extract to variable (置)"
  | .toFunction => "Extract to function (定)"

structure Refactoring where
  extraction : Extraction
  edits : List Edit
deriving DecidableEq, Repr

def newVariable : List Char := "newVar".toList

def newFunction : List Char := "newFunc".toList

def indentation (line : List Char) : List Char := line.takeWhile Text.isEditorBlank

/-- Whether a line without blanks around it begins a function. -/
def isDefinition (text : List Char) : Bool :=
  ["定", "def"].any fun w =>
    w.toList.isPrefixOf text && ((text.drop w.toList.length).head?).any Text.isEditorBlank

namespace Document

/-- The line before which a function taken from the lines from `current` on is put: the nearest
function above, or the line after the nearest empty one that is not directly above. The counter is
the number of lines still to be looked at, from below. -/
def insertionLine (d : Document) (current : Nat) : Nat → Nat
  | 0 => 0
  | i + 1 =>
    let text := Text.trim Text.isEditorBlank (d.lineD i)
    if isDefinition text then i
    else if text.isEmpty && i + 1 < current then i + 1
    else d.insertionLine current i

/-- The selected text becomes the value of a variable, which is set on a new line above. -/
def extractVariable (d : Document) (r : Range) (selected : List Char) : Refactoring :=
  let above := indentation (d.lineD r.start.line) ++ "置 ".toList ++ newVariable ++ [' '] ++
    selected ++ ['\n']
  ⟨.toVariable, [.insert ⟨r.start.line, 0⟩ above, .replace (r.down 1) newVariable]⟩

/-- The selected lines become the body of a function, which is called in their place. -/
def extractFunction (d : Document) (r : Range) : Refactoring :=
  let first := r.start.line
  let last := r.stop.line
  let body := Text.joinWith ['\n'] ((d.lines.take (last + 1)).drop first)
  let definition := "定 ".toList ++ newFunction ++ ":\n".toList ++ body ++ "\n终\n\n".toList
  let whole : Range := ⟨⟨first, 0⟩, ⟨last, Text.units (d.lineD last)⟩⟩
  ⟨.toFunction,
    [.insert ⟨d.insertionLine first first, 0⟩ definition,
      -- the lines put in above have moved the selected ones down
      .replace (whole.down (definition.count '\n'))
        (indentation (d.lineD first) ++ "调 ".toList ++ newFunction)]⟩

def refactorings (d : Document) (r : Range) : Except EditorFault (List Refactoring) :=
  let selected := Text.trim Text.isEditorBlank (d.slice r)
  if r.isEmpty || selected.isEmpty then .ok []
  else if r.start.line = r.stop.line then
    let wholeLine := selected = Text.trim Text.isEditorBlank (d.lineD r.start.line)
    .ok ((if wholeLine then [] else [d.extractVariable r selected]) ++
      if selected.contains ' ' then [d.extractFunction r] else [])
  else if d.lines.length ≤ r.stop.line then .error .badLine
  else .ok [d.extractFunction r]

end Document

end Flowline.Editor
