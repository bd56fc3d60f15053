import Flowline.Action

/-!
# Keywords

What the editor knows about the words of the language: their forms, a short and a long description
in three languages, and their category. The words of an action are those the reader accepts.
-/

namespace Flowline.Editor

structure Wording where
  en : String
  ja : String
  zh : String
deriving DecidableEq, Repr

inductive Category
  | action
  | control
  | arithmetic
  | blockEnd
  | lineState
deriving DecidableEq, Repr

def Category.name : Category → String
  | action => "action"
  | control => "control"
  | arithmetic => "arithmetic"
  | blockEnd => "struct"
  | lineState => "linestate"

structure Keyword where
  id : String
  forms : List String
  description : Wording
  detail : Wording
  category : Category
  opensBlock : Bool
deriving DecidableEq, Repr

def listedActions : List Action :=
  [.print, .set, .call, .define, .if_, .elif, .else_, .while_, .for_, .break_, .continue_,
    .giveBack, .try_, .except, .finally_, .pass, .add, .sub, .mul, .div]

def actionCategory : Action → Category
  | .print | .set | .call => .action
  | .add | .sub | .mul | .div => .arithmetic
  | _ => .control

def actionDescription : Action → Wording
  | .print => ⟨"Print output", "出力", "打印输出"⟩
  | .set => ⟨"Set variable", "変数設定", "设置变量"⟩
  | .call => ⟨"Call function", "関数呼び出し", "调用函数"⟩
  | .define => ⟨"Define function", "関数定義", "定义函数"⟩
  | .if_ => ⟨"If condition", "条件分岐", "条件判断"⟩
  | .elif => ⟨"Else if", "さもなくば（条件付き）", "否则如果"⟩
  | .else_ => ⟨"Else branch", "さもなくば", "否则"⟩
  | .while_ => ⟨"While loop", "whileループ", "循环"⟩
  | .for_ => ⟨"For loop", "forループ", "遍历循环"⟩
  | .break_ => ⟨"Break loop", "ループ中断", "跳出循环"⟩
  | .continue_ => ⟨"Continue loop", "ループ継続", "继续循环"⟩
  | .giveBack => ⟨"Return value", "値を返す", "返回值"⟩
  | .try_ => ⟨"Try block", "tryブロック", "异常捕获"⟩
  | .except => ⟨"Catch exception", "例外捕捉", "捕获异常"⟩
  | .finally_ => ⟨"Finally block", "finallyブロック", "最终执行"⟩
  | .pass => ⟨"Empty statement", "空文", "空语句"⟩
  | .add => ⟨"Addition", "加算", "加法"⟩
  | .sub => ⟨"Subtraction", "減算", "减法"⟩
  | .mul => ⟨"Multiplication", "乗算", "乘法"⟩
  | .div => ⟨"Division", "除算", "除法"⟩

def actionDetail : Action → Wording
  | .print =>
    ⟨"Print values to standard output.\nSyntax: 印 value1 value2 ...",
      "標準出力に値を出力します。\n構文: 印 値1 値2 ...",
      "将值输出到标准输出。\n语法: 印 值1 值2 ..."⟩
  | .set =>
    ⟨"Assign a value to a variable.\nSyntax: 置 name value\nSyntax: 置 name func arg",
      "変数に値を代入します。\n構文: 置 名前 値\n構文: 置 名前 関数 引数",
      "给变量赋值。\n语法: 置 变量名 值\n语法: 置 变量名 函数 参数"⟩
  | .call =>
    ⟨"Call a defined function.\nSyntax: 调 function_name arg1 arg2 ...",
      "定義された関数を呼び出します。\n構文: 調 関数名 引数1 引数2 ...",
      "调用已定义的函数。\n语法: 调 函数名 参数1 参数2 ..."⟩
  | .define =>
    ⟨"Define a new function.\nSyntax: 定 name param1 param2:\n  body\n终",
      "新しい関数を定義します。\n構文: 定 名前 引数1 引数2:\n  本体\n終",
      "定义一个新函数。\n语法: 定 函数名 参数1 参数2:\n  函数体\n终"⟩
  | .if_ =>
    ⟨"Conditional branch.\nSyntax: 若 condition:\n  body\n终",
      "条件分岐。\n構文: 若 条件:\n  本体\n終",
      "条件分支。\n语法: 若 条件:\n  执行体\n终"⟩
  | .elif =>
    ⟨"Else-if branch. Must follow 若/if or 又若/elif block.\nSyntax: 又若 condition:",
      "else-if分岐。若/ifまたは又若/elifブロックの後に使用。\n構文: 又若 条件:",
      "否则如果分支。必须在若/if或又若/elif块之后。\n语法: 又若 条件:"⟩
  | .else_ =>
    ⟨"Else branch. Must follow 若/if or 又若/elif block.\nSyntax: 否则:",
      "else分岐。若/ifまたは又若/elifブロックの後に使用。\n構文: 否則:",
      "否则分支。必须在若/if或又若/elif块之后。\n语法: 否则:"⟩
  | .while_ =>
    ⟨"Loop while condition is true.\nSyntax: 当 condition:\n  body\n终",
      "条件が真の間ループします。\n構文: 当 条件:\n  本体\n終",
      "当条件为真时循环。\n语法: 当 条件:\n  循环体\n终"⟩
  | .for_ =>
    ⟨"Iterate over a sequence.\nSyntax: 扭扭 var in iterable:",
      "シーケンスを反復します。\n構文: 扭扭 変数 in イテラブル:",
      "遍历序列。\n语法: 扭扭 变量 in 序列:"⟩
  | .break_ =>
    ⟨"Break out of the current loop.\nSyntax: 断",
      "現在のループを中断します。\n構文: 断",
      "跳出当前循环。\n语法: 断"⟩
  | .continue_ =>
    ⟨"Skip to the next iteration of the loop.\nSyntax: 续",
      "ループの次の反復にスキップします。\n構文: 続",
      "跳到循环的下一次迭代。\n语法: 续"⟩
  | .giveBack =>
    ⟨"Return a value from a function.\nSyntax: 回 value",
      "関数から値を返します。\n構文: 回 値",
      "从函数返回一个值。\n语法: 回 值"⟩
  | .try_ =>
    ⟨"Begin a try block for exception handling.\nSyntax: 试:\n  body\n捕 ExceptionType:\n  handler\n终",
      "例外処理のtryブロックを開始します。\n構文: 試:\n  本体\n捕 例外型:\n  ハンドラ\n終",
      "开始一个异常处理块。\n语法: 试:\n  执行体\n捕 异常类型:\n  处理代码\n终"⟩
  | .except =>
    ⟨"Catch an exception. Must follow 试/try block.\nSyntax: 捕 ExceptionType:",
      "例外を捕捉します。試/tryブロックの後に使用。\n構文: 捕 例外型:",
      "捕获异常。必须在试/try块之后。\n语法: 捕 异常类型:"⟩
  | .finally_ =>
    ⟨"Finally block, always executed.\nSyntax: 终于:",
      "必ず実行されるfinallyブロック。\n構文: 終於:",
      "始终执行的最终代码块。\n语法: 终于:"⟩
  | .pass =>
    ⟨"An empty statement (placeholder).\nSyntax: 空",
      "空の文（プレースホルダ）。\n構文: 空",
      "一个空语句（占位符）。\n语法: 空"⟩
  | .add =>
    ⟨"Add two values.\nSyntax: 加 result left right\nOr inside SET: 置 result 加 left right",
      "2つの値を加算します。\n構文: 加 結果 左 右\nまたはSET内: 置 結果 加 左 右",
      "两个值相加。\n语法: 加 结果 左 右\n或在SET内: 置 结果 加 左 右"⟩
  | .sub =>
    ⟨"Subtract two values.\nSyntax: 减 result left right",
      "2つの値を減算します。\n構文: 減 結果 左 右",
      "两个值相减。\n语法: 减 结果 左 右"⟩
  | .mul =>
    ⟨"Multiply two values.\nSyntax: 乘 result left right",
      "2つの値を乗算します。\n構文: 乘 結果 左 右",
      "两个值相乘。\n语法: 乘 结果 左 右"⟩
  | .div =>
    ⟨"Divide two values.\nSyntax: 除 result left right",
      "2つの値を除算します。\n構文: 除 結果 左 右",
      "两个值相除。\n语法: 除 结果 左 右"⟩

def Keyword.ofAction (a : Action) : Keyword where
  id := a.id
  forms := [a.words.1, a.words.2]
  description := actionDescription a
  detail := actionDetail a
  category := actionCategory a
  opensBlock := a.opensBlock

def actionKeywords : List Keyword := listedActions.map Keyword.ofAction

def blockEndKeyword : Keyword where
  id := "BLOCK_END"
  forms := blockEndWords
  description := ⟨"End block", "ブロック終了", "结束块"⟩
  detail :=
    ⟨"End a block (function, if, while, try, etc.).\nSyntax: 终",
      "ブロック（関数、if、while、tryなど）を終了します。\n構文: 終",
      "结束一个块（函数、if、while、try等）。\n语法: 终"⟩
  category := .blockEnd
  opensBlock := false

/-- The keyword of a mark, with its descriptions. -/
def markKeyword (mark : String) (description detail : Wording) : Keyword :=
  ⟨mark, [mark], description, detail, .lineState, false⟩

def lineStateKeywords : List Keyword :=
  [markKeyword "~" ⟨"Continue (neutral)", "継続（ニュートラル）", "继续（中性）"⟩
      ⟨"Default line state. Continues the current behavioral segment.",
        "デフォルトの行態。現在の行為節を継続します。",
        "默认行态。继续当前的行为节。"⟩,
    markKeyword ">" ⟨"Advance (segment boundary)", "アドバンス（セグメント境界）", "前进（段边界）"⟩
      ⟨"Advance to the next behavioral segment.",
        "次の行為節に進みます。",
        "进入下一个行为节。"⟩,
    markKeyword "<" ⟨"Return / Echo", "戻る / エコー", "返回 / 回显"⟩
      ⟨"Return or echo — refers back to the previous segment.",
        "戻るまたはエコー — 前のセグメントを参照します。",
        "返回或回显 — 引用上一个段。"⟩,
    markKeyword "!" ⟨"Strong (commit)", "ストロング（コミット）", "强制（提交）"⟩
      ⟨"Strong / commit — marks a critical, must-succeed action.",
        "ストロング / コミット — 必ず成功する必要があるアクションをマークします。",
        "强制/提交 — 标记一个关键的、必须成功的动作。"⟩,
    markKeyword "?" ⟨"Tentative (await)", "テンタティブ（待機）", "待定（等待）"⟩
      ⟨"Tentative / await — waits for external input.",
        "テンタティブ / 待機 — 外部入力を待ちます。",
        "待定/等待 — 等待外部输入。"⟩]

def keywords : List Keyword := actionKeywords ++ blockEndKeyword :: lineStateKeywords

def keywordOf? (word : String) : Option Keyword := keywords.find? fun k => k.forms.contains word

def keywordWithId? (id : String) : Option Keyword := keywords.find? fun k => k.id == id

def opensBlock (word : String) : Bool := (Action.ofWord? word).any Action.opensBlock

/-- A word that compares or joins conditions. -/
structure Operator where
  form : String
  meaning : String
  description : Wording
deriving DecidableEq, Repr

def operators : List Operator :=
  [⟨"是", "==", ⟨"equals", "等しい", "等于"⟩⟩,
    ⟨"不是", "!=", ⟨"not equals", "等しくない", "不等于"⟩⟩,
    ⟨"或", "or", ⟨"or", "または", "或"⟩⟩,
    ⟨"且", "and", ⟨"and", "かつ", "且"⟩⟩]

end Flowline.Editor
