import Flowline.Decimal.Nearest
import Flowline.Text.Blank
import Flowline.Text.DigitTable
import Flowline.Text.Words

/-!
# Numerals

What counts as a number in a source line: an optional sign, decimal digits of any script with an
optional point and exponent, underscores between two digits, or one of the words for infinity and
for an undefined value, in any mixture of capitals. Blanks may stand around it.
-/

namespace Flowline

/-- A number as written. A finite one is `mantissa · 10 ^ exponent`. -/
inductive Numeral
  | finite (negative : Bool) (mantissa : Nat) (exponent : Int)
  | infinite (negative : Bool)
  | undefined
deriving DecidableEq, Repr

namespace Numeral

/-- A digit of any script as an ASCII digit; other characters beyond ASCII are refused. -/
def plainChar? (c : Char) : Option Char :=
  if c.toNat < 128 then some c
  else (Text.digitValue? c).map fun d => Char.ofNat (48 + d)

/-- Removes the underscores, each of which has to stand between two digits. `afterDigit` says
whether a digit comes before the text. -/
def dropUnderscores : Bool → List Char → Option (List Char)
  | _, [] => some []
  | afterDigit, c :: cs =>
    if c = '_' then
      if afterDigit && (cs.head?.any Char.isDigit) then dropUnderscores false cs else none
    else (dropUnderscores c.isDigit cs).map (c :: ·)

def digitsValue (cs : List Char) : Nat := cs.foldl (fun n c => 10 * n + (c.toNat - 48)) 0

/-- An optional sign, and whether it is a minus. -/
def splitSign : List Char → Bool × List Char
  | '-' :: cs => (true, cs)
  | '+' :: cs => (false, cs)
  | cs => (false, cs)

/-- The exponent of a numeral, which ends it. -/
def exponent? : List Char → Option Int
  | [] => some 0
  | c :: cs =>
    if c = 'e' || c = 'E' then
      let (negative, ds) := splitSign cs
      if !ds.isEmpty && ds.all Char.isDigit then
        some (if negative then -(digitsValue ds : Int) else digitsValue ds)
      else none
    else none

/-- An unsigned decimal numeral: digits, a point, digits, an exponent. -/
def decimal? (negative : Bool) (cs : List Char) : Option Numeral :=
  let whole := cs.takeWhile Char.isDigit
  let rest := cs.dropWhile Char.isDigit
  let (fraction, rest) :=
    match rest with
    | '.' :: rest => (rest.takeWhile Char.isDigit, rest.dropWhile Char.isDigit)
    | rest => ([], rest)
  if whole.isEmpty && fraction.isEmpty then none
  else
    (exponent? rest).map fun e =>
      .finite negative (digitsValue (whole ++ fraction)) (e - fraction.length)

def read? (cs : List Char) : Option Numeral := do
  let plain ← (Text.trim Text.isNumeralBlank cs).mapM plainChar?
  let (negative, body) := splitSign (← dropUnderscores false plain)
  let word := String.ofList (body.map Char.toLower)
  if word = "inf" || word = "infinity" then return .infinite negative
  else if word = "nan" then return .undefined
  else decimal? negative body

/-- The nearest floating-point number. Far beyond the range of the exponent the result is known
without the power. -/
def toFloat : Numeral → Float
  | undefined => 0.0 / 0.0
  | infinite negative => if negative then -1.0 / 0.0 else 1.0 / 0.0
  | finite negative mantissa exponent =>
    let size : Int := (Nat.toDigits 10 mantissa).length
    let magnitude : Float :=
      if mantissa = 0 then 0.0
      else if exponent + size > 400 then 1.0 / 0.0
      else if exponent + size < -400 then 0.0
      else if exponent < 0 then Decimal.nearest mantissa (Nat.pow 10 exponent.natAbs)
      else Decimal.nearest (mantissa * Nat.pow 10 exponent.natAbs) 1
    if negative then -magnitude else magnitude

end Numeral

def isNumeral (word : String) : Bool := (Numeral.read? word.toList).isSome

end Flowline
