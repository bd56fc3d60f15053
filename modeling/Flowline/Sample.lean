/-!
# Sample programs

The programs that come with the language, by the path under which they are found.
-/

namespace Flowline.Sample

/-- Prints one variable by both words of the action. -/
def aloha : String := "\n".intercalate [
  "",
  "print aloha",
  "印 aloha",
  ""]

/-- Requests an address and treats the two outcomes. -/
def apiFlow : String := "\n".intercalate [
  "# API 行为流示例：根据 URL 调用接口，并按状态分支处理",
  "",
  "# 用户输入 URL",
  "~ 输入 -> 解析URL",
  "",
  "# 解析后的 URL 交给请求器",
  "~ 解析URL -> 调用接口",
  "",
  "# 调用接口后，根据结果分支",
  "! 调用接口 -> 处理成功",
  "? 调用接口 -> 处理失败",
  "",
  "",
  "# ---- 成功分支 ----",
  "~ 成功流程:",
  "    响应体 -> 提取数据",
  "    提取数据 -> 输出成功",
  "end",
  "",
  "",
  "# ---- 失败分支 ----",
  "~ 失败流程:",
  "    响应体 -> 输出错误",
  "end",
  ""]

/-- A small robot that answers. -/
def behaviorFlow : String := "\n".intercalate [
  "# 行为流示例：一个会“回应”的小机器人",
  "",
  "~ 你好 -> 理解",
  "~ 理解 -> 决定",
  "! 决定 -> 行动",
  "< 行动 <- 回馈",
  "",
  "",
  "# ---- 下面是更具体的行为 ----",
  "",
  "# 输入来自某个来源（人 / 机器人 / UI）",
  "~ 输入 -> 解析文本",
  "印 这里要从输入过度到解析文本",
  "",
  "# 解析后的意图，交给判断器",
  "~ 解析文本 -> 判断意图",
  "印 这里要从解析文本过度到判断意图",
  "",
  "# 如果是“保存”",
  "! 判断意图 -> 保存流程",
  "印 判断意图后保存流程",
  "",
  "# 如果是“回应”",
  "? 判断意图 -> 回复流程",
  "印 判断意图后回复流程",
  "",
  "# ---- 保存流程（一个完整咒语） ----",
  "~ 保存流程:",
  "    输入 -> 生成内容",
  "    生成内容 -> 写文件",
  "    写文件 -> 回馈",
  "    end",
  "",
  "# ---- 回复流程 ----",
  "~ 回复流程:",
  "    输入 -> 生成回复",
  "    生成回复 -> 输出",
  "    end",
  ""]

/-- A calculator that reads its operands and its operator. -/
def calculator : String := "\n".intercalate [
  "# 迷你计算器 · Catapillar Calculator",
  "# 设计参考: 迷你计算器 设计.md",
  "# 支持加减乘除，输入 quit 或 exit 退出",
  "",
  "印 Catapillar Calculator",
  "印 Type expressions like: (3+5)*2",
  "印 Type 'quit' to exit.",
  "",
  "# ------------ 是否退出 ------------",
  "定 是退出 文本:",
  "若 文本 是 quit 或 文本 是 exit:",
  "回 真",
  "否则:",
  "回 假",
  "终",
  "终",
  "",
  "# ------------ 读数 / 读运算符 ------------",
  "定 读数:",
  "置 输入 input",
  "回 输入",
  "终",
  "",
  "定 读运算符:",
  "置 输入 input",
  "回 输入",
  "终",
  "",
  "# ------------ 主计算循环 ------------",
  "定 小计算器:",
  "当 真:",
  "",
  "印 左数:",
  "置 左 读数",
  "若 是退出 左:",
  "印 Bye.",
  "断",
  "终",
  "",
  "印 运算符 (+ - * /):",
  "置 符号 读运算符",
  "若 是退出 符号:",
  "印 Bye.",
  "断",
  "终",
  "",
  "印 右数:",
  "置 右 读数",
  "若 是退出 右:",
  "印 Bye.",
  "断",
  "终",
  "",
  "试:",
  "置 左数 float 左",
  "置 右数 float 右",
  "若 符号 是 +:",
  "置 结果 加 左数 右数",
  "又若 符号 是 -:",
  "置 结果 减 左数 右数",
  "又若 符号 是 *:",
  "置 结果 乘 左数 右数",
  "又若 符号 是 /:",
  "置 结果 除 左数 右数",
  "否则:",
  "印 cataerr: unknown operator.",
  "续",
  "终",
  "终",
  "捕 零除错误:",
  "印 cataerr: division by zero.",
  "续",
  "捕 其他错误:",
  "印 cataerr: invalid expression.",
  "续",
  "终于:",
  "空",
  "终",
  "印 结果",
  "终",
  "终",
  "",
  "# ------------ 程序入口 ------------",
  "定 main:",
  "调 小计算器",
  "终",
  "",
  "调 main",
  ""]

/-- A program without a line. -/
def emojiFlow : String := "\n".intercalate [
  ""]

/-- Marks, assignments and comments. -/
def test : String := "\n".intercalate [
  "# print and set",
  "置 变量1 10",
  "印 变量1",
  "印 hello",
  "调 夜 x",
  "",
  "# emotional line",
  "~ 印 hello",
  "~ set cloud 444",
  "! 印 警告",
  "? 调 夜 x",
  "< 印 回声",
  "",
  "# Annotation 注释",
  "~ 印 hello",
  "! 印 警告  # 少时诵诗书",
  "",
  "~~",
  "这是多行注释",
  "这些都应该被忽略",
  "~~",
  ""]

def all : List (String × String) := [
  ("examples/aloha.cat", aloha),
  ("examples/api_flow.cat", apiFlow),
  ("examples/behavior_flow.cat", behaviorFlow),
  ("examples/calculator.cat", calculator),
  ("examples/emoji_flow.cat", emojiFlow),
  ("examples/test.cat", test)]

def at? (path : String) : Option String := all.lookup path

end Flowline.Sample
