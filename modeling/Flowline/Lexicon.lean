import Flowline.Fault

/-!
# Lexicons

A lexicon gives words their intents. It is loaded from data that list, for each intent, the words
that stand for it. A later entry of a word takes the place of an earlier one, also across loads; when
a load fails, the entries made before the fault stay.
-/

namespace Flowline

/-- The known words, each once, with their intents. -/
structure Lexicon where
  entries : List (Datum.Key × String) := []
deriving DecidableEq, Repr, Inhabited

namespace Lexicon

def size (lex : Lexicon) : Nat := lex.entries.length

/-- Puts an entry in the place of the one with the same word, or at the end. -/
def enterIn (word : Datum.Key) (intent : String) :
    List (Datum.Key × String) → List (Datum.Key × String)
  | [] => [(word, intent)]
  | (w, i) :: rest =>
    if w = word then (w, intent) :: rest else (w, i) :: enterIn word intent rest

def enter (lex : Lexicon) (word : Datum.Key) (intent : String) : Lexicon :=
  ⟨enterIn word intent lex.entries⟩

def get? (lex : Lexicon) (word : Datum.Key) : Option String := lex.entries.lookup word

def ofWord? (lex : Lexicon) (word : String) : Option String := lex.get? (.text word)

/-- The intent of a datum; lists and records cannot be looked up. -/
def resolve (lex : Lexicon) (d : Datum) : Except Fault (Option String) :=
  match d.key? with
  | some word => .ok (lex.get? word)
  | none => .error .wrongKind

/-- Enters the words of one intent, up to the first that cannot be entered. -/
def enterAll (lex : Lexicon) (intent : String) : List Datum → Lexicon × Option Fault
  | [] => (lex, none)
  | d :: ds =>
    match d.key? with
    | some word => (lex.enter word intent).enterAll intent ds
    | none => (lex, some .wrongKind)

/-- Loads the words of each intent, up to the first fault. -/
def loadFields (lex : Lexicon) : Record → Lexicon × Option Fault
  | [] => (lex, none)
  | (intent, config) :: rest =>
    match config.field "aliases" (.list []) >>= Datum.elements with
    | .error f => (lex, some f)
    | .ok words =>
      match lex.enterAll intent words with
      | (lex, none) => lex.loadFields rest
      | (lex, some f) => (lex, some f)

def load (lex : Lexicon) (data : Datum) : Lexicon × Option Fault :=
  match data with
  | .record fields => lex.loadFields fields
  | _ => (lex, some .noOperation)

end Lexicon

end Flowline
