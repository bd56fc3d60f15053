import Flowline.Editor.Document

/-!
# The button that runs a document

The button stands at the line that defines `main`, or at the top of the document.
-/

namespace Flowline.Editor

/-- The text after a beginning, which is compared without regard to capitals. -/
def afterWord? (word text : List Char) : Option (List Char) :=
  if (text.take word.length).map Char.toLower = word then some (text.drop word.length) else none

def isMainEntry (line : List Char) : Bool :=
  let text := Text.trim Text.isEditorBlank line
  ["定", "as", "def"].any fun w =>
    match afterWord? w.toList text with
    | none => false
    | some rest =>
      rest.head?.any Text.isEditorBlank &&
        match afterWord? "main".toList (Text.trimStart Text.isEditorBlank rest) with
        | none => false
        | some rest => (Text.trimStart Text.isEditorBlank rest).head? == some ':'

def Document.runLine (d : Document) : Nat := (d.lines.findIdx? isMainEntry).getD 0

def runTitle : String := "$(play) Run"

def runCommand : String := "catapillar.runCodeLens"

end Flowline.Editor
