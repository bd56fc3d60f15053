import Flowline.Emit.Compile

/-!
# Lines of every form

The words and lines on which the compiler's smallest parts are tried: each kind of value, each form
of condition, assignment and line, and the lines that are refused.
-/

namespace Flowline.Workload

def words : List String :=
  ["", "True", "真", "False", "假", "None", "123", "3.14", "-9", "input", "float", "int", "str",
    "变量", "hello", "a+b", "quit", "exit", "==", "or", "and", "x1", "名字", "??"]

/-- `n` words, the list begun anew whenever it ends. -/
def wordsUpTo (n : Nat) : List String :=
  (List.range n).map fun i => words[i % words.length]?.getD ""

def conditions : List (List String) :=
  [["x", "是", "1", "或", "y", "是", "2:"], ["x", "!=", "3", "且", "y", "是", "4:"],
    ["helper", "a", "b:"], ["flag:"], ["=="]]

def assignments : List (List String) :=
  [["v", "1"], ["v", "读数"], ["v", "float", "x"], ["r", "加", "a", "b"], ["r", "减", "a", "b"],
    ["r", "乘", "a", "b"], ["r", "除", "a", "b"], ["r", "fn", "a", "b", "c"]]

def refusedAssignments : List (List String) :=
  [[], ["v"], ["1v", "1"], ["r", "加", "a"], ["r", "减", "a"], ["r", "乘", "a"], ["r", "除", "a"],
    ["r", "加", "a", "b", "c"], ["r", "乘", "a", "b", "c"], ["a-b", "x"]]

def lines : List (Action × List String) :=
  [(.print, []), (.print, ["x"]), (.print, ["a", "b\\\"c"]), (.giveBack, []), (.giveBack, ["x"]),
    (.break_, []), (.continue_, []), (.pass, []), (.call, ["f", "1", "2"]),
    (.for_, ["i", "in", "xs:"]), (.for_, ["i", "xs", "ys:"]), (.define, ["f:"]),
    (.define, ["f", "a", "b:"]), (.except, []), (.except, ["ValueError:"])]

def refusedLines : List (Action × List String) :=
  [(.define, []), (.if_, []), (.elif, []), (.while_, []), (.for_, []), (.for_, ["i", "in"]),
    (.set, []), (.set, ["v"]), (.call, []), (.add, ["r", "a"]), (.sub, ["r", "a"]),
    (.mul, ["r", "a"]), (.div, ["r", "a"]), (.add, ["1r", "a", "b"])]

/-- What compiling lines one after the other gives for each. -/
def emissions (i : Indent) : List (Action × List String) → List (Except EmitError (Option String))
  | [] => []
  | (action, args) :: rest =>
    let (j, r) := (Statement.line action args "~").emit i
    r :: emissions j rest

end Flowline.Workload
