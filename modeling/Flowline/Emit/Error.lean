import Flowline.Action

/-!
# Why a tree has no program

The causes for which a tree is not turned into a program, and their texts. The first six concern the
shape of the tree and cannot arise for a tree that was read from a source.
-/

namespace Flowline

inductive EmitError
  | notProgram
  | notFlow
  | notSegment
  | notLine
  | unknownStatement (kind : String)
  | unhandledAction (id : String)
  | missingFunctionName
  | missingCondition (action : Action)
  | badLoop
  | missingValue
  | badVariable (name : String)
  /-- An operation inside an assignment has only one operand. -/
  | missingOperand (operation : Action)
  /-- An operation inside an assignment has more than two operands. -/
  | surplusOperand (operation : Action)
  | missingCallee
  | badArithmetic
  | badResult (name : String)
deriving DecidableEq, Repr

def EmitError.message : EmitError → String
  | notProgram => "Root node must be Program"
  | notFlow => "Expected Flow node"
  | notSegment => "Expected Segment node"
  | notLine => "Expected Line node"
  | unknownStatement kind => "Unknown statement type: " ++ kind
  | unhandledAction id => "Unhandled ActionID: " ++ id
  | missingFunctionName => "DEF expects at least a function name"
  | missingCondition action => action.id ++ " expects a condition"
  | badLoop => "FOR expects: variable in iterable"
  | missingValue => "SET expects at least 2 arguments: variable value"
  | badVariable name => "Invalid variable name: " ++ name
  | missingOperand op =>
    op.id ++ " in SET expects 4 args: 置 result " ++ op.words.2 ++ " left right"
  | surplusOperand op => op.id ++ " in SET expects: 置 result " ++ op.words.2 ++ " left right"
  | missingCallee => "CALL expects at least a function name"
  | badArithmetic => "Arithmetic operation expects 3 arguments: result left right"
  | badResult name => "Invalid result variable: " ++ name

end Flowline
