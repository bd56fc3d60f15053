import Flowline.Editor.Analysis
import Flowline.Editor.Document

/-!
# Outline, definitions and references

The outline lists the functions a document defines and then its variables, each variable once. A
name is defined where its function is, or else where its variable is first assigned. References are
the places where a word stands by itself.
-/

namespace Flowline.Editor

/-- Symbols with one of each name, the first. -/
def distinctNames : List String → List Symbol → List Symbol
  | _, [] => []
  | seen, s :: ss =>
    if seen.contains s.name then distinctNames seen ss
    else s :: distinctNames (s.name :: seen) ss

def Document.analysis (d : Document) : Analysis := analyze d.text

structure OutlineEntry where
  symbol : Symbol
  detail : String
  range : Range
deriving DecidableEq, Repr

def paramText (params : List String) : String := "(" ++ ", ".intercalate params ++ ")"

def Symbol.detail : Symbol → String
  | .function _ params _ => paramText params
  | .binding _ _ => "variable"

namespace Document

def outline (d : Document) : List OutlineEntry :=
  let a := d.analysis
  (a.functions ++ distinctNames [] a.bindings).map fun s =>
    ⟨s, s.detail, d.lineRange (s.line - 1)⟩

def symbol? (d : Document) (name : String) : Option Symbol :=
  let a := d.analysis
  (a.functions.find? fun s => s.name == name).or (a.bindings.find? fun s => s.name == name)

/-- The beginning of the line that defines the word at a position. -/
def definition? (d : Document) (p : Position) : Option Position := do
  let (word, _) ← d.wordAt? p
  let s ← d.symbol? word
  return ⟨s.line - 1, 0⟩

end Document

/-- The characters that may stand beside a word that is by itself. -/
def isWordBoundary (c : Char) : Bool :=
  Text.isEditorBlank c || c == ':' || c == ',' || c == '#'

/-- Where a word stands by itself in a text. `before` is the character before the text, `column` the
column at which it begins, and the counter says how many characters of an occurrence are still to be
passed over. -/
def occurrences (word : List Char) : Nat → Char → Nat → List Char → List Nat
  | _, _, _, [] => []
  | k + 1, _, column, c :: cs => occurrences word k c (column + Text.charUnits c) cs
  | 0, before, column, c :: cs =>
    if word.isPrefixOf (c :: cs) then
      -- the search goes on after the word even where it does not stand by itself
      (if isWordBoundary before && isWordBoundary (((c :: cs).drop word.length).headD ' ')
        then [column] else []) ++
        occurrences word (word.length - 1) c (column + Text.charUnits c) cs
    else occurrences word 0 c (column + Text.charUnits c) cs

/-- The ranges at which the word at a position stands by itself. -/
def Document.references (d : Document) (p : Position) : List Range :=
  match d.wordAt? p with
  | none => []
  | some (word, _) =>
    (d.lines.zipIdx).flatMap fun (l, n) =>
      (occurrences word.toList 0 ' ' 0 l).map fun c =>
        ⟨⟨n, c⟩, ⟨n, c + Text.units word.toList⟩⟩

end Flowline.Editor
