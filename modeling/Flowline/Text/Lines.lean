import Flowline.Text.Blank

/-!
# Lines

A carriage return followed by a line feed is one line break everywhere; which other characters
break a line depends on who reads the text.
-/

namespace Flowline.Text

/-- The pieces of a text between its line breaks; after a break at the end comes an empty piece. -/
def pieces (brk : Char → Bool) : List Char → List (List Char)
  | [] => [[]]
  | '\r' :: '\n' :: cs => [] :: pieces brk cs
  | c :: cs => if brk c then [] :: pieces brk cs else (pieces brk cs).modifyHead (c :: ·)

/-- The lines of a source text: a break ends a line, so none follows the last break. -/
def sourceLines (cs : List Char) : List (List Char) :=
  let ps := pieces isLineBreak cs
  if ps.getLast? == some [] then ps.dropLast else ps

/-- The lines a source has for the editor's reader, which knows line feeds only. -/
def editorLines (cs : List Char) : List (List Char) := pieces (· == '\n') cs

def documentLines (cs : List Char) : List (List Char) :=
  pieces (fun c => c == '\n' || c == '\r') cs

/-- Every way to end a line written as a line feed, as files are read. -/
def unifyBreaks : List Char → List Char
  | [] => []
  | '\r' :: '\n' :: cs => '\n' :: unifyBreaks cs
  | c :: cs => (if c == '\r' then '\n' else c) :: unifyBreaks cs

theorem pieces_ne_nil (brk : Char → Bool) (cs : List Char) : pieces brk cs ≠ [] := by
  fun_induction pieces brk cs with
  | case1 => simp
  | case2 => simp
  | case3 => simp
  | case4 c cs _ _ ih => simpa [List.modifyHead_eq_nil_iff] using ih

end Flowline.Text
