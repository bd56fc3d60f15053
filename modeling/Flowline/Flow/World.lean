import Flowline.Lexicon
import Flowline.Text.Blank

/-!
# What nodes see and change

A node reads and changes a context, prints, may ask for a line of input and may request an address.
`World` holds what it changes, `Surroundings` what it only consults.
-/

namespace Flowline

inductive Http
  | reply (status : Int) (text : String)
  | failure (message : String)
  /-- There is no client to request with. -/
  | unavailable
deriving DecidableEq, Repr, Inhabited

structure Surroundings where
  lexicon : Lexicon := {}
  http : Http := .failure "no response configured"

def requestTimeout : Nat := 5

structure Outgoing where
  address : Datum
  /-- The seconds after which it is given up. -/
  timeout : Nat

structure World where
  context : Record := []
  printed : String := ""
  /-- The requests sent, in order. -/
  sent : List Outgoing := []
  /-- The input not read yet. -/
  input : List Char := []

namespace World

def print (w : World) (text : String) : World := { w with printed := w.printed ++ text }

def printLine (w : World) (text : String) : World := w.print (text ++ "\n")

def put (w : World) (field : String) (v : Datum) : World :=
  { w with context := Record.put w.context field v }

def get? (w : World) (field : String) : Option Datum := Record.get? w.context field

def getD (w : World) (field : String) (stand : Datum) : Datum := Record.getD w.context field stand

/-- The addresses requested, in order. -/
def requests (w : World) : List Datum := w.sent.map Outgoing.address

def send (w : World) (address : Datum) : World :=
  { w with sent := w.sent ++ [{ address, timeout := requestTimeout }] }

/-- Reads a line of input, after a prompt. -/
def ask (w : World) (prompt : String) : World × Except Fault String :=
  let w := w.print prompt
  match w.input with
  | [] => (w, .error .endOfInput)
  | cs =>
    ({ w with input := (cs.dropWhile (· != '\n')).tail },
      .ok (String.ofList (cs.takeWhile (· != '\n'))))

end World

end Flowline
