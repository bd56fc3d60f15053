import Flowline.Emit.Error
import Flowline.Program
import Flowline.Text.Utf8

/-!
# Faults

Everything that can stop an operation on loose data: the data are not of the kind that the operation
needs, a program does not parse or compile, a flow leads nowhere, a file cannot be read. Faults of
kind carry no text of their own.
-/

namespace Flowline

inductive Fault
  /-- The value has no such operation. -/
  | noOperation
  /-- The operation does not take a value of this kind. -/
  | wrongKind
  /-- The list is too short. -/
  | outOfRange
  | missingKey (key : Datum)
  | parse (error : ParseError)
  | emit (error : EmitError)
  | decode (fault : Text.DecodeFault)
  | noFile (path : String)
  /-- No reader for the format of a lexicon. -/
  | noReader
  | noCapability (intent : String)
  | endOfInput

/-- The text of a fault, if it has one. -/
def Fault.message? : Fault → Option String
  | noOperation | wrongKind | outOfRange => none
  | missingKey key => some key.shown
  | parse e => some e.message
  | emit e => some e.message
  | decode f => some f.message
  | noFile path =>
    some ("[Errno 2] No such file or directory: " ++ String.ofList (Text.quoted path.toList))
  | noReader => some "import of yaml halted; None in sys.modules"
  | noCapability intent => some ("No capability for " ++ intent)
  | endOfInput => some "EOF when reading a line"

namespace Datum

/-- The elements met when going through a datum: those of a list, the characters of a text, the
names of the fields of a record. -/
def elements : Datum → Except Fault (List Datum)
  | list items => .ok items
  | text s => .ok (s.toList.map fun c => text c.toString)
  | record fields => .ok (fields.map fun e => text e.1)
  | _ => .error .wrongKind

/-- A field of a record, or a stand-in; only records have fields. -/
def field (d : Datum) (name : String) (stand : Datum) : Except Fault Datum :=
  match d with
  | record fields => .ok (Record.getD fields name stand)
  | _ => .error .noOperation

/-- A field that has to be there. -/
def entry (d : Datum) (name : String) : Except Fault Datum :=
  match d with
  | record fields =>
    match Record.get? fields name with
    | some v => .ok v
    | none => .error (.missingKey (text name))
  | _ => .error .wrongKind

end Datum

/-- The text of a source file: its bytes are UTF-8, and every way to end a line is a line feed. -/
def fileSource (bytes : List UInt8) : Except Fault String :=
  match Text.decode bytes with
  | .ok cs => .ok (String.ofList (Text.unifyBreaks cs))
  | .error f => .error (.decode f)

end Flowline
