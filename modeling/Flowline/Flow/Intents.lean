import Flowline.Lexicon

/-!
# The flow of a program

The arrows of a program, read in order, name the intents of its flow: first the one an arrow comes
from, then the one it goes to. Words that the lexicon does not know are left out.
-/

namespace Flowline

/-- The intents that an optional resolution contributes; an empty intent counts as none. -/
def presentIntent : Option String → List String
  | some i => if i.isEmpty then [] else [i]
  | none => []

namespace Statement

def intents (lex : Lexicon) : Statement → List String
  | arrow source target _ _ =>
    presentIntent (lex.ofWord? source) ++ presentIntent (lex.ofWord? target)
  | _ => []

end Statement

def Program.flow (lex : Lexicon) (p : Program Statement) : List String :=
  p.statements.flatMap (Statement.intents lex)

namespace Loose

/-- What stands in a field, gone through; an absent field holds nothing. -/
def parts (name : String) (d : Datum) : Except Fault (List Datum) := do
  (← d.field name (.list [])).elements

def statementIntents (lex : Lexicon) (d : Datum) : Except Fault (List String) := do
  if (← d.field "type" .null).text? = some "Arrow" then
    let source ← d.entry "from"
    let target ← d.entry "to"
    return presentIntent (← lex.resolve source) ++ presentIntent (← lex.resolve target)
  else return []

def flowOf (lex : Lexicon) (tree : Datum) : Except Fault (List String) := do
  (← parts "flows" tree).flatMapM fun flow => do
    (← parts "segments" flow).flatMapM fun segment => do
      (← parts "lines" segment).flatMapM (statementIntents lex)

end Loose

end Flowline
