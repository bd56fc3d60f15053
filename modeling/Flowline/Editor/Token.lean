import Flowline.Token
import Flowline.Text.Units

/-!
# Tokens in a document

The editor reads lines as the compiler does, with its own class of blanks, and remembers for every
token where it stands: the number of its line and the column of its first word. Columns are counted
in the line without the blanks around it and without a comment.
-/

namespace Flowline.Editor

structure PlacedToken where
  token : Token
  line : Nat
  column : Nat
  /-- The text the token was read from. -/
  text : List Char
deriving DecidableEq, Repr

def columnOf (word text : List Char) : Nat :=
  match Text.indexOf? word text with
  | some n => Text.units (text.take n)
  | none => 0

/-- The token of a line that is not inside a block comment. -/
def PlacedToken.ofLine (line : List Char) (number : Nat) : Option PlacedToken :=
  (Token.ofLine Text.isEditorBlank line).map fun t =>
    ⟨t, number, columnOf t.action.toList line, line⟩

structure Warning where
  message : String
  line : Nat
deriving DecidableEq, Repr

def unclosedCommentWarning : String := "Unclosed block comment (~~)"

def readings (source : List Char) : List Reading :=
  readLines Text.isEditorBlank false (Text.editorLines source)

def tokens (source : List Char) : List PlacedToken :=
  ((readings source).zipIdx 1).filterMap fun (r, n) => PlacedToken.ofLine r.text n

/-- The warnings of a source: comments after other text, and at last a block comment that is not
closed. -/
def warnings (source : List Char) : List Warning :=
  (cutLines (readings source)).map (fun n => ⟨inlineCommentWarning n, n⟩) ++
    if commentOpen Text.isEditorBlank (Text.editorLines source) then
      [⟨unclosedCommentWarning, (Text.editorLines source).length⟩]
    else []

end Flowline.Editor
