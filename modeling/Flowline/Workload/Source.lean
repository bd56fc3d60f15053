import Flowline.Flow.Intents
import Flowline.Emit.Compile
import Flowline.Fault

/-!
# Sources of any size

A source that is made of numbered blocks, to see how the stages behave as it grows. Every block uses
all actions, holds one line that ends a segment, and differs from the others only in the name of its
function. `source` has the blocks alone, `framedSource` a block comment before them and a marked line
with a comment after them.

A second kind of source has only arrows, all of whose words the stock lexicons know.
-/

namespace Flowline.Workload

def block (number : Nat) : List String := [
  "",
  s!"定 func{number} a b:",
  "    加 c a b",
  "    减 d a b",
  "    乘 e a b",
  "    除 f a b",
  "    印 c",
  "    回 c",
  "end",
  "",
  "置 x 1",
  "置 y 2",
  "置 z 真",
  "置 w None",
  "置 r 加 x y",
  "置 r 减 x y",
  "置 r 乘 x y",
  "置 r 除 x y",
  "置 s str x",
  "> 印 x",
  "# 分支",
  "若 x 是 1 或 y 是 2:",
  "    印 x",
  "又若 x 不是 3 且 y 是 4:",
  "    印 y",
  "否则:",
  "    空",
  "end",
  "当 z:",
  "    加 x x 1",
  "    若 x 是 9:",
  "        断",
  "    end",
  "    续",
  "end",
  "# 循环",
  "扭扭 i in xs:",
  "    印 i",
  "end",
  "试:",
  "    除 q x y",
  "捕 零除错误:",
  "    印 零",
  "捕 其他错误:",
  "    空",
  "终于:",
  "    印 完",
  "end",
  "",
  "置 a 0",
  "置 b 1",
  "置 k 2",
  "置 m 3",
  "置 n 4",
  "置 p 5",
  "加 a a b",
  "减 k k b",
  "乘 m m n",
  "印 a",
  "印 b",
  "印 k",
  "印 m",
  "印 n",
  "印 p",
  "印 x",
  "印 y",
  "定 g:",
  "    空",
  "end",
  "若 b:",
  "    印 b",
  "end"]

/-- The blocks `0` to `n - 1`, one after the other. -/
def source (n : Nat) : String :=
  "\n".intercalate ((List.range n).map fun i => "\n".intercalate (block i))

/-- The blocks between a block comment and a marked line with a comment at its end. -/
def framedSource (n : Nat) : String :=
  "\n".intercalate ["~~", "测试", "~~", source n, "! 印 warn # 注释"]

def round : List String := [
  "~ 你好 -> 理解",
  "~ 理解 -> 决定",
  "! 决定 -> 行动",
  "< 行动 <- 回馈",
  "~ 输入 -> 解析文本",
  "~ 解析文本 -> 判断"]

def flowSource (n : Nat) : String :=
  "\n".intercalate ((List.replicate n round).flatten)

/-! ## What the stages make of them -/

/-- How many flows a program has, and how many segments its first one. -/
def shape (p : Program Statement) : Nat × Nat := (p.flows.length, (p.flows.headD []).length)

def framedShape (n : Nat) : Except ParseError (Nat × Nat) := shape <$> parse (framedSource n)

/-- How many lines and how many characters the program compiled from the blocks has. -/
def compiledSize (n : Nat) : Except Fault (Nat × Nat) :=
  match parse (source n) with
  | .error e => .error (.parse e)
  | .ok p =>
    match p.compile.code with
    | .error e => .error (.emit e)
    | .ok code =>
      .ok ((Text.documentLines code.toList).length - if code.isEmpty then 1 else 0, code.length)

def flow (lex : Lexicon) (n : Nat) : Except ParseError (List String) :=
  (Program.flow lex) <$> parse (flowSource n)

end Flowline.Workload
