import Flowline.Numeral
import Flowline.Text.Name

/-!
# Operands

A word of a source line stands for a value in the generated program: a constant, a number, a
variable or, when it is none of these, the text of the word itself between double quotes.
-/

namespace Flowline

def isName (word : String) : Bool := Text.isName word.toList

def dropColons (word : String) : String :=
  String.ofList (Text.trimEnd (· == ':') word.toList)

def constant? (word : String) : Option String :=
  if word = "True" || word = "真" then some "True"
  else if word = "False" || word = "假" then some "False"
  else if word = "None" then some "None"
  else none

/-- Text between double quotes, as it stands. -/
def enquote (text : String) : String := "\"" ++ text ++ "\""

/-- The value of a word: arguments, assigned values, operands of arithmetic. -/
def operand (word : String) : String :=
  if word.isEmpty then enquote ""
  else
    match constant? word with
    | some c => c
    | none => if isNumeral word || isName word then word else enquote word

def comparisonSigns : List String := ["==", "!=", ">", "<", ">=", "<=", "or", "and"]

/-- The names that stand for themselves as texts in a condition. -/
def quittingWords : List String := ["quit", "exit"]

def conditionOperand (word : String) : String :=
  if word.isEmpty then enquote ""
  else
    match constant? word with
    | some c => c
    | none =>
      if isNumeral word || comparisonSigns.contains word then word
      else if isName word && !quittingWords.contains word then word
      else enquote word

end Flowline
