import Flowline.Lexicon

/-!
# The lexicons that come with the language

Each lexicon is kept under a path. Two editions of the language exist: the standalone one, and one
bundled with the editor, which has fewer lexicons but keeps each of them in a second format as well.
The bundled edition can do without the reader of the first format and then looks for the second.
-/

namespace Flowline.Lexicon

/-- A lexicon as data: for each intent the words that stand for it. -/
def dataOf (entries : List (String × List String)) : Datum :=
  .record (entries.map fun (intent, words) => (intent, .record [("aliases", .ofWords words)]))

def basic : Datum := dataOf [
  ("INTENT_INPUT", ["输入", "input", "start", "hello", "begin"]),
  ("INTENT_PARSE", ["解析", "解析文本", "理解", "parse", "understand"]),
  ("INTENT_DECIDE", ["决定", "判断", "decide"]),
  ("INTENT_ACTION", ["行动", "执行", "act"]),
  ("INTENT_FEEDBACK", ["回馈", "回应", "feedback", "done"])]

def agent : Datum := dataOf [
  ("INTENT_INPUT", ["你好", "喂", "嗨", "你在吗", "哥哥", "hey", "hi", "bro", "お兄ちゃん"]),
  ("INTENT_PARSE", ["听懂", "理解", "明白", "收到", "我懂了", "知道了", "understood", "知ってる"]),
  ("INTENT_DECIDE", ["想一想", "决定一下", "判断一下", "思考", "think", "bus", "考える"]),
  ("INTENT_FEEDBACK", ["好了", "完成了", "已处理", "回复", "finished", "daco", "終わったよ"])]

def api : Datum := dataOf [
  ("INTENT_PARSE_URL", ["解析URL", "parse_url"]),
  ("INTENT_HTTP_REQUEST", ["调用接口", "调用API", "request_api"]),
  ("INTENT_HANDLE_SUCCESS", ["处理成功", "success", "成功流程"]),
  ("INTENT_HANDLE_ERROR", ["处理失败", "error", "失败流程"]),
  ("INTENT_EXTRACT_DATA", ["提取数据", "extract"]),
  ("INTENT_OUTPUT_SUCCESS", ["输出成功", "print_success"]),
  ("INTENT_OUTPUT_ERROR", ["输出错误", "print_error"]),
  ("INTENT_INPUT", ["输入"]),
  ("INTENT_PARSE", ["解析URL", "解析", "parse"]),
  ("INTENT_FEEDBACK", ["回馈"])]

def project : Datum := dataOf [
  ("INTENT_SAVE", ["保存", "写文件", "存起来", "save", "persist"]),
  ("INTENT_REPLY", ["回复", "回答", "说话", "reply", "respond"]),
  ("INTENT_GENERATE", ["生成", "写内容", "create", "generate"])]

def surface : Datum := dataOf [
  ("INTENT_INPUT", ["点击", "拖入", "输入框", "触发"]),
  ("INTENT_ACTION", ["按钮", "执行按钮", "开始"]),
  ("INTENT_FEEDBACK", ["提示", "弹窗", "显示结果"])]

inductive Edition
  | standalone
  | bundled
deriving DecidableEq, Repr, Inhabited

def shelf : Edition → List (String × Datum)
  | .standalone =>
    [("lexicon/default.yaml", basic), ("lexicon/agent.yaml", agent),
      ("lexicon/project_api.yaml", api), ("lexicon/project_x.yaml", project),
      ("lexicon/ul.yaml", surface)]
  | .bundled =>
    [("lexicon/default.yaml", basic), ("lexicon/agent.yaml", agent),
      ("lexicon/project_api.yaml", api), ("lexicon/default.json", basic),
      ("lexicon/agent.json", agent), ("lexicon/project_api.json", api)]

def secondPath (path : String) : String :=
  let cs := path.toList
  if ".yaml".toList.isSuffixOf cs then
    String.ofList (Text.replaceAll ".yaml".toList ".json".toList cs)
  else path ++ ".json"

/-- The content of the lexicon at a path. `hasReader` says whether the first format can be read; the
standalone edition always can. -/
def contentAt (edition : Edition) (hasReader : Bool) (path : String) : Except Fault Datum :=
  if hasReader || edition == .standalone then
    match (shelf edition).lookup path with
    | some d => .ok d
    | none => .error (.noFile path)
  else
    match (shelf edition).lookup (secondPath path) with
    | some d => .ok d
    | none => .error .noReader

def loadFrom (lex : Lexicon) (edition : Edition) (hasReader : Bool) (path : String) :
    Lexicon × Option Fault :=
  match contentAt edition hasReader path with
  | .ok d => lex.load d
  | .error f => (lex, some f)

def startPaths : List String :=
  ["lexicon/default.yaml", "lexicon/agent.yaml", "lexicon/project_api.yaml"]

/-- Loads lexicons one after the other, up to the first fault. -/
def loadPaths (lex : Lexicon) (edition : Edition) (hasReader : Bool) :
    List String → Lexicon × Option Fault
  | [] => (lex, none)
  | p :: ps =>
    match lex.loadFrom edition hasReader p with
    | (lex, none) => lex.loadPaths edition hasReader ps
    | (lex, some f) => (lex, some f)

end Flowline.Lexicon
