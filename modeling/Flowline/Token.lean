import Flowline.Action
import Flowline.Text.Blank
import Flowline.Text.Lines
import Flowline.Text.Words

/-!
# Tokens

A line of a source is read into at most one token: its mark, its first word and the words after
it. Comment lines, blank lines and lines between two `~~` give none. What counts as a blank is a
parameter, because the editor reads with another class than the compiler.

A source is read line by line: `readLine` says what a line contributes and whether a block comment
is open after it, `readLines` goes through all of them.
-/

namespace Flowline

structure Token where
  action : String
  args : List String
  state : String
deriving DecidableEq, Repr, Inhabited

namespace Token

/-- The token of the words of a line. A line that has no mark counts as marked `~`. -/
def ofWords : List String → Option Token
  | [] => none
  | w :: ws =>
    if isLineState w then
      match ws with
      | [] => none
      | a :: args => some ⟨a, args, w⟩
    else some ⟨w, ws, "~"⟩

def ofLine (blank : Char → Bool) (line : List Char) : Option Token :=
  match Text.trim blank line with
  | [] => none
  | '#' :: _ => none
  | cs => ofWords ((Text.words blank cs).map String.ofList)

end Token

structure Reading where
  /-- The line without the blanks around it and without a comment at its end. -/
  text : List Char
  token : Option Token
  /-- Whether a comment after other text was left out. -/
  cutComment : Bool
deriving DecidableEq, Repr

def Reading.nothing : Reading := ⟨[], none, false⟩

/-- Reads a line, given whether a block comment is open before it; also says whether one is open
after it. -/
def readLine (blank : Char → Bool) (inComment : Bool) (line : List Char) : Bool × Reading :=
  let text := Text.trim blank line
  if text = ['~', '~'] then (!inComment, .nothing)
  else if inComment then (true, .nothing)
  else if text.contains '#' && text.head? != some '#' then
    let kept := Text.trimEnd blank (text.takeWhile (· != '#'))
    (false, ⟨kept, Token.ofLine blank kept, true⟩)
  else (false, ⟨text, Token.ofLine blank text, false⟩)

/-- Reads all lines, one reading each. -/
def readLines (blank : Char → Bool) : Bool → List (List Char) → List Reading
  | _, [] => []
  | inComment, line :: lines =>
    (readLine blank inComment line).2 :: readLines blank (readLine blank inComment line).1 lines

/-- Whether a block comment is open after the lines. -/
def commentOpen (blank : Char → Bool) (lines : List (List Char)) : Bool :=
  lines.foldl (fun inComment line => (readLine blank inComment line).1) false

def numberedTokens (rs : List Reading) : List (Token × Nat) :=
  (rs.zipIdx 1).filterMap fun (r, n) => r.token.map (·, n)

/-- The numbers of the lines whose comment was left out. -/
def cutLines (rs : List Reading) : List Nat :=
  (rs.zipIdx 1).filterMap fun (r, n) => if r.cutComment then some n else none

def inlineCommentWarning (line : Nat) : String :=
  s!"Inline comments are not supported in Catapillar v0.1 (ignored) [line {line}]"

def readSource (source : String) : List Reading :=
  readLines Text.isBlank false (Text.sourceLines source.toList)

def tokenize (source : String) : List (Token × Nat) := numberedTokens (readSource source)

def sourceWarnings (source : String) : List String :=
  (cutLines (readSource source)).map inlineCommentWarning

@[simp] theorem readLines_nil (blank : Char → Bool) (b : Bool) : readLines blank b [] = [] := rfl

@[simp] theorem readLines_cons (blank : Char → Bool) (b : Bool) (l : List Char)
    (ls : List (List Char)) :
    readLines blank b (l :: ls) =
      (readLine blank b l).2 :: readLines blank (readLine blank b l).1 ls := rfl

@[simp] theorem length_readLines (blank : Char → Bool) (b : Bool) (ls : List (List Char)) :
    (readLines blank b ls).length = ls.length := by
  induction ls generalizing b with
  | nil => rfl
  | cons l ls ih => simp [ih]

end Flowline
