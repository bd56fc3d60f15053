import Flowline.Emit.Operand
import Flowline.Text.Blank

/-!
# Conditions

A condition is either a call, written as the name of a function followed by its arguments, or words
between which operators stand. The operators of the second language are replaced where they stand
between two spaces; the rest of the words are values.

A condition may end with colons. They belong to the line and not to its last word, so `settleArgs`
takes them off.
-/

namespace Flowline

/-- The arguments with the colons taken off the last one. -/
def settleArgs : List String → List String
  | [] => []
  | [w] => [dropColons w]
  | w :: ws => w :: settleArgs ws

/-- Whether words without colons are the call of a function. -/
def isCallForm : List String → Bool
  | f :: x :: xs => isName f && !(f :: x :: xs).contains "是" && !(f :: x :: xs).contains "或"
  | _ => false

/-- The call of a function with the given words as arguments. -/
def callText (f : String) (args : List String) : String :=
  f ++ "(" ++ ", ".intercalate (args.map operand) ++ ")"

/-- The operators of the second language and what is written for them, in the order in which they
are replaced. -/
def operatorWords : List (String × String) :=
  [(" 是 ", " == "), (" 或 ", " or "), (" 且 ", " and "), (" 不是 ", " != ")]

/-- Text in which every operator that stands between two spaces is replaced. -/
def replaceOperators (cs : List Char) : List Char :=
  operatorWords.foldl (fun cs (old, new) => Text.replaceAll old.toList new.toList cs) cs

/-- The words of a condition that is no call, written as values and operators. -/
def operatorText (text : String) : String :=
  " ".intercalate
    ((Text.words Text.isBlank (replaceOperators text.toList)).map fun w =>
      conditionOperand (String.ofList w))

/-- The condition of words from which the colons have been taken off. -/
def settledCondition (args : List String) : String :=
  if isCallForm args then callText (args.headD "") args.tail
  else operatorText (" ".intercalate args)

def condition (args : List String) : String := settledCondition (settleArgs args)

end Flowline
