import Flowline.Datum

/-!
# Data as JSON

Lists and records are written over several lines, each level two blanks further in; empty ones are
written as a pair of brackets.
-/

namespace Flowline.Editor

def jsonChar (c : Char) : List Char :=
  if c = '"' || c = '\\' then ['\\', c]
  else if c = '\n' then ['\\', 'n']
  else if c = '\r' then ['\\', 'r']
  else if c = '\t' then ['\\', 't']
  else if c = '\x08' then ['\\', 'b']
  else if c = '\x0c' then ['\\', 'f']
  else if c.toNat < 0x20 then '\\' :: 'u' :: Text.hexDigits 4 c.toNat
  else [c]

def jsonQuoted (s : String) : String :=
  String.ofList ('"' :: s.toList.flatMap jsonChar ++ ['"'])

def jsonBreak (level : Nat) : String := "\n" ++ String.ofList (List.replicate (2 * level) ' ')

/-- Parts between two brackets, each on a line of the next level. -/
def jsonGroup (level : Nat) (opening closing : String) (parts : List String) : String :=
  if parts.isEmpty then opening ++ closing
  else
    opening ++ jsonBreak (level + 1) ++ ("," ++ jsonBreak (level + 1)).intercalate parts ++
      jsonBreak level ++ closing

mutual

def jsonAt (level : Nat) : Datum → String
  | .null => "null"
  | .bool b => if b then "true" else "false"
  | .int n => toString n
  | .real x => Decimal.realText x
  | .text s => jsonQuoted s
  | .list items => jsonGroup level "[" "]" (jsonItems (level + 1) items)
  | .record fields => jsonGroup level "\x7b" "\x7d" (jsonFields (level + 1) fields)

def jsonItems (level : Nat) : List Datum → List String
  | [] => []
  | d :: ds => jsonAt level d :: jsonItems level ds

def jsonFields (level : Nat) : List (String × Datum) → List String
  | [] => []
  | (k, d) :: rest => (jsonQuoted k ++ ": " ++ jsonAt level d) :: jsonFields level rest

end

def jsonText (d : Datum) : String := jsonAt 0 d

end Flowline.Editor
