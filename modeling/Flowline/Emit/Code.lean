import Flowline.Emit.Condition
import Flowline.Emit.Error

/-!
# The code of a line

`Action.code` gives the line of the generated program for an action and its arguments, without the
indentation, or says why the arguments do not fit the action.
-/

namespace Flowline

/-- The operation that a word names inside an assignment. -/
def operation? (word : String) : Option Action :=
  [Action.add, .sub, .mul, .div].find? fun a => a.words.1 == word || a.words.2 == word

/-- The words that call a function when they are all that is assigned. -/
def callableWords : List String := ["读数", "读运算符", "input", "float", "int", "str"]

/-- What the first word after the variable of an assignment, with the words after it, writes. -/
def assignedText (word : String) : List String → Except EmitError String
  | [] => .ok (if callableWords.contains word then word ++ "()" else operand word)
  | [x] =>
    match operation? word with
    | some op => .error (.missingOperand op)
    | none => .ok (callText word [x])
  | x :: y :: rest =>
    match operation? word with
    | some op =>
      if rest.isEmpty then .ok (operand x ++ " " ++ op.sign?.getD "" ++ " " ++ operand y)
      else .error (.surplusOperand op)
    | none => .ok (callText word (x :: y :: rest))

def setCode : List String → Except EmitError String
  | name :: word :: rest =>
    if isName name then (assignedText word rest).map (name ++ " = " ++ ·)
    else .error (.badVariable name)
  | _ => .error .missingValue

/-- An arithmetic line, given the sign of its operation. -/
def arithmeticCode (sign : String) : List String → Except EmitError String
  | [result, left, right] =>
    if isName result then .ok (result ++ " = " ++ operand left ++ " " ++ sign ++ " " ++ operand right)
    else .error (.badResult result)
  | _ => .error .badArithmetic

/-- Text as it stands between double quotes in a program: a backslash goes before a backslash and
before a double quote. -/
def escapeText (cs : List Char) : List Char :=
  cs.flatMap fun c => if c = '\\' || c = '"' then ['\\', c] else [c]

/-- Words as one text of a program. -/
def textLiteral (words : List String) : String :=
  enquote (String.ofList (escapeText (" ".intercalate words).toList))

/-- A line that prints. A single name is a variable; everything else is text. -/
def printCode : List String → String
  | [] => "print()"
  | [w] => if isName w then "print(" ++ w ++ ")" else "print(" ++ textLiteral [w] ++ ")"
  | ws => "print(" ++ textLiteral ws ++ ")"

def returnCode : List String → String
  | [] => "return"
  | ws => "return " ++ operand (" ".intercalate ws)

def callCode : List String → Except EmitError String
  | [] => .error .missingCallee
  | f :: args => .ok (callText f args)

def defineCode : List String → Except EmitError String
  | [] => .error .missingFunctionName
  | f :: params =>
    .ok ("def " ++ dropColons f ++ "(" ++ ", ".intercalate (params.map dropColons) ++ "):")

def loopCode : List String → Except EmitError String
  | var :: second :: third :: rest =>
    let source := if second = "in" then third :: rest else second :: third :: rest
    .ok ("for " ++ var ++ " in " ++ dropColons (" ".intercalate source) ++ ":")
  | _ => .error .badLoop

/-- The names of errors in the second language. -/
def errorName (word : String) : String :=
  if word = "零除错误" then "ZeroDivisionError"
  else if word = "其他错误" then "Exception"
  else word

def exceptCode : List String → String
  | [] => "except:"
  | word :: _ => "except " ++ errorName (dropColons word) ++ ":"

def conditionCode (action : Action) (keyword : String) : List String → Except EmitError String
  | [] => .error (.missingCondition action)
  | args => .ok (keyword ++ " " ++ condition args ++ ":")

/-- The line of the generated program for an action and its arguments. -/
def Action.code : Action → List String → Except EmitError String
  | print, args => .ok (printCode args)
  | set, args => setCode args
  | call, args => callCode args
  | define, args => defineCode args
  | giveBack, args => .ok (returnCode args)
  | if_, args => conditionCode .if_ "if" args
  | elif, args => conditionCode .elif "elif" args
  | else_, _ => .ok "else:"
  | while_, args => conditionCode .while_ "while" args
  | for_, args => loopCode args
  | break_, _ => .ok "break"
  | continue_, _ => .ok "continue"
  | try_, _ => .ok "try:"
  | except, args => .ok (exceptCode args)
  | finally_, _ => .ok "finally:"
  | pass, _ => .ok "pass"
  | add, args => arithmeticCode "+" args
  | sub, args => arithmeticCode "-" args
  | mul, args => arithmeticCode "*" args
  | div, args => arithmeticCode "/" args

end Flowline
