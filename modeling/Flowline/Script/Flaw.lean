import Flowline.Script.Lexeme
import Flowline.Script.Placement

/-!
# Why a text is no program

Every reason has a wording, and all but one are told with the line at which they show.
-/

namespace Flowline.Script

inductive Flaw
  | invalid
  /-- An expression follows another one within brackets. -/
  | noComma
  /-- A choice between two values lacks the second. -/
  | noElse
  | expected (sign : String)
  /-- Something that cannot be assigned is assigned. -/
  | badTarget (what : String)
  | wrappedParams
  /-- Texts and bytes stand side by side. -/
  | mixedTexts
  /-- A head without a body. -/
  | noBody (head : String) (headLine : Nat)
  | noHandler
  | unexpectedIndent
  | neverClosed (bracket : Char)
  | lexical (fault : LexFault)
  | literal (fault : LiteralFault)
  | halt (why : Halt)
  | repeatedParam (name : String)
  | misfit (misfit : Misfit)
  /-- The text has the character with the number zero. -/
  | zeroCharacter
deriving DecidableEq, Repr

namespace Flaw

def isIndentation : Flaw → Bool
  | noBody .. | unexpectedIndent | halt .deepIndent | halt .strayDedent => true
  | _ => false

def message : Flaw → String
  | invalid => "invalid syntax"
  | noComma => "invalid syntax. Perhaps you forgot a comma?"
  | noElse => "expected 'else' after 'if' expression"
  | expected sign => s!"expected '{sign}'"
  | badTarget what => s!"cannot assign to {what}"
  | wrappedParams => "Function parameters cannot be parenthesized"
  | mixedTexts => "cannot mix bytes and nonbytes literals"
  | noBody head line =>
    let what := if head = "def" then "function definition" else s!"'{head}' statement"
    s!"expected an indented block after {what} on line {line}"
  | noHandler => "expected 'except' or 'finally' block"
  | unexpectedIndent => "unexpected indent"
  | neverClosed bracket => s!"'{bracket}' was never closed"
  | lexical fault => fault.message
  | literal fault => fault.message
  | halt .strayBackslash => "unexpected character after line continuation character"
  | halt .deepIndent => "too many levels of indentation"
  | halt .strayDedent => "unindent does not match any outer indentation level"
  | repeatedParam name => s!"duplicate argument '{name}' in function definition"
  | misfit m => m.message
  | zeroCharacter => "source code string cannot contain null bytes"

end Flaw

/-- What is wrong with a text, and the line where it shows. -/
structure ReadError where
  flaw : Flaw
  line : Nat
deriving DecidableEq, Repr

namespace ReadError

def isIndentation (e : ReadError) : Bool := e.flaw.isIndentation

def message (e : ReadError) : String :=
  if e.flaw = .zeroCharacter then e.flaw.message
  else s!"{e.flaw.message} (<string>, line {e.line})"

end ReadError

end Flowline.Script
