import Flowline.Text.Lines
import Flowline.Text.Units
import Flowline.Text.Words

/-!
# Documents, positions and ranges

A document is a list of lines, at least one. A position is a line and a column in 16-bit units; a
range has its ends in order. Asking for text clamps positions into the document, asking for a line
that does not exist is a fault.
-/

namespace Flowline.Editor

inductive EditorFault
  /-- There is no such line. -/
  | badLine
  /-- A line or a column is negative. -/
  | badPosition
  /-- A text is to be repeated a negative number of times. -/
  | badCount (count : Int)
  /-- Something is missing whose field is asked for. -/
  | missing (field : String)
deriving DecidableEq, Repr

def EditorFault.message : EditorFault → String
  | badLine => "Illegal value for `line`"
  | badPosition => "illegal argument"
  | badCount n => s!"Invalid count value: {n}"
  | missing f => s!"Cannot read properties of undefined (reading '{f}')"

structure Position where
  line : Nat
  column : Nat
deriving DecidableEq, Repr, Inhabited

namespace Position

/-- The position with the given line and column, which must not be negative. -/
def ofInts (line column : Int) : Except EditorFault Position :=
  if line < 0 || column < 0 then .error .badPosition else .ok ⟨line.toNat, column.toNat⟩

def le (a b : Position) : Bool := a.line < b.line || (a.line == b.line && a.column ≤ b.column)

def down (p : Position) (lines : Nat) : Position := { p with line := p.line + lines }

end Position

structure Range where
  start : Position
  stop : Position
deriving DecidableEq, Repr, Inhabited

namespace Range

/-- The range between two positions, in whichever order they come. -/
def between (a b : Position) : Range := if a.le b then ⟨a, b⟩ else ⟨b, a⟩

def isEmpty (r : Range) : Bool := r.start == r.stop

def at_ (p : Position) : Range := ⟨p, p⟩

def down (r : Range) (lines : Nat) : Range := ⟨r.start.down lines, r.stop.down lines⟩

end Range

inductive Edit
  | insert (position : Position) (text : List Char)
  | replace (range : Range) (text : List Char)
deriving DecidableEq, Repr

def languageId : String := "catapillar"

structure Document where
  lines : List (List Char)
  language : String := languageId
  path : String := "/doc.cat"
deriving DecidableEq, Repr

namespace Document

def ofText (text : String) : Document := { lines := Text.documentLines text.toList }

/-- The text of a document, with line feeds between the lines. -/
def text (d : Document) : List Char := Text.joinWith ['\n'] d.lines

/-- A line that has to exist. -/
def line (d : Document) (n : Nat) : Except EditorFault (List Char) :=
  match d.lines[n]? with
  | some l => .ok l
  | none => .error .badLine

/-- A line, empty if there is none. -/
def lineD (d : Document) (n : Nat) : List Char := d.lines[n]?.getD []

def lineRange (d : Document) (n : Nat) : Range := ⟨⟨n, 0⟩, ⟨n, Text.units (d.lineD n)⟩⟩

/-- The nearest position that exists. -/
def clamp (d : Document) (p : Position) : Position :=
  let last := d.lines.length - 1
  if last < p.line then ⟨last, Text.units (d.lineD last)⟩
  else ⟨p.line, min p.column (Text.units (d.lineD p.line))⟩

/-- The text of a range. A character of which only a part belongs to the range is left out. -/
def slice (d : Document) (r : Range) : List Char :=
  let a := d.clamp r.start
  let b := d.clamp r.stop
  if a.line = b.line then
    Text.takeUnits (b.column - a.column) (Text.dropUnits a.column (d.lineD a.line))
  else
    let first := Text.dropUnits a.column (d.lineD a.line)
    let middle := (d.lines.take b.line).drop (a.line + 1)
    let last := Text.takeUnits b.column (d.lineD b.line)
    Text.joinWith ['\n'] (first :: middle ++ [last])

end Document

/-! ## Words -/

/-- The characters of a word in a document: letters, digits and the underscore of the basic
alphabet, and the unified ideographs. -/
def isWordChar (c : Char) : Bool :=
  c.isAlphanum || c == '_' || (0x4E00 ≤ c.toNat && c.toNat ≤ 0x9FFF)

/-- The words of a line, each with the column of its beginning and the column after it. The first
argument is the column at which the text begins, the second the word that is being read. -/
def wordSpans : Nat → List Char → List Char → List (Nat × Nat)
  | col, word, [] => if word.isEmpty then [] else [(col - Text.units word, col)]
  | col, word, c :: cs =>
    if isWordChar c then wordSpans (col + Text.charUnits c) (c :: word) cs
    else
      (if word.isEmpty then [] else [(col - Text.units word, col)]) ++
        wordSpans (col + Text.charUnits c) [] cs

/-- The range of the first word that touches a position. -/
def Document.wordRange? (d : Document) (p : Position) : Option Range :=
  let q := d.clamp p
  ((wordSpans 0 [] (d.lineD q.line)).find? fun (a, b) => a ≤ q.column && q.column ≤ b).map
    fun (a, b) => ⟨⟨q.line, a⟩, ⟨q.line, b⟩⟩

/-- The word at a position, with its range. -/
def Document.wordAt? (d : Document) (p : Position) : Option (String × Range) :=
  (d.wordRange? p).map fun r => (String.ofList (d.slice r), r)

end Flowline.Editor
