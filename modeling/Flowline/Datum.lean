import Flowline.Decimal.Real
import Flowline.Text.Quoted

/-!
# Loose data

Trees, tokens and contexts may come from outside as data that nobody has checked. `Datum` is such a
value: a record keeps its fields in the order in which they were entered. A datum has a text on its
own (`display`) and one inside a list or a record (`shown`), and those that may serve as an entry of
a lexicon have a `Key`.
-/

namespace Flowline

inductive Datum
  | null
  | bool (value : Bool)
  | int (value : Int)
  | real (value : Float)
  | text (value : String)
  | list (items : List Datum)
  | record (fields : List (String × Datum))
deriving Inhabited

/-- The fields of a record, in order of entry. -/
abbrev Record := List (String × Datum)

namespace Record

def get? (r : Record) (field : String) : Option Datum := r.lookup field

/-- The value of a field, or a stand-in. -/
def getD (r : Record) (field : String) (stand : Datum) : Datum := (r.lookup field).getD stand

/-- Changes a field in its place, or enters it at the end. -/
def put {α : Type} : List (String × α) → String → α → List (String × α)
  | [], field, v => [(field, v)]
  | (k, w) :: rest, field, v =>
    if k == field then (k, v) :: rest else (k, w) :: put rest field v

def update (r more : Record) : Record := more.foldl (fun r e => put r e.1 e.2) r

end Record

namespace Datum

/-- Whether a datum counts as present: neither null nor false nor zero nor empty. -/
def truthy : Datum → Bool
  | null => false
  | bool b => b
  | int n => n != 0
  | real x => x != 0.0
  | text s => !s.isEmpty
  | list items => !items.isEmpty
  | record fields => !fields.isEmpty

def boolText (b : Bool) : String := if b then "True" else "False"

mutual

/-- The text of a datum inside a list or a record. -/
def shown : Datum → String
  | null => "None"
  | bool b => boolText b
  | int n => toString n
  | real x => Decimal.realText x
  | text s => String.ofList (Text.quoted s.toList)
  | list items => "[" ++ ", ".intercalate (shownItems items) ++ "]"
  | record fields => "\x7b" ++ ", ".intercalate (shownFields fields) ++ "\x7d"

def shownItems : List Datum → List String
  | [] => []
  | d :: ds => shown d :: shownItems ds

def shownFields : List (String × Datum) → List String
  | [] => []
  | (k, d) :: rest =>
    (String.ofList (Text.quoted k.toList) ++ ": " ++ shown d) :: shownFields rest

end

/-- The text of a datum on its own. -/
def display : Datum → String
  | text s => s
  | d => shown d

/-- What two data have in common when a lexicon or a set takes them for the same entry. -/
inductive Key
  | null
  | int (value : Int)
  | bits (value : UInt64)
  | text (value : String)
deriving DecidableEq, Repr

/-- The entry a datum stands for; lists and records stand for none. Truth values count as numbers,
and so does a floating-point number without a fraction. -/
def key? : Datum → Option Key
  | null => some .null
  | bool b => some (.int (if b then 1 else 0))
  | int n => some (.int n)
  | real x =>
    if x.floor == x && x.abs < 9007199254740992.0 then
      some (.int (if x < 0 then -((-x).toUInt64.toNat : Int) else x.toUInt64.toNat))
    else some (.bits x.toBits)
  | text s => some (.text s)
  | list _ => none
  | record _ => none

def text? : Datum → Option String
  | text s => some s
  | _ => none

def words? : Datum → Option (List String)
  | list items => items.mapM text?
  | _ => none

def ofWords (ws : List String) : Datum := list (ws.map text)

theorem words?_ofWords (ws : List String) : (ofWords ws).words? = some ws := by
  induction ws with
  | nil => rfl
  | cons w ws ih =>
    simp only [ofWords, words?, List.map_cons, List.mapM_cons, text?] at ih ⊢
    simp [ih]

end Datum

end Flowline
