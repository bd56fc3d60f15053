/-!
# Actions

Every action has two words, one of each language, and an identifier under which trees and messages
name it.
-/

namespace Flowline

inductive Action
  | print | set | call
  | define | giveBack
  | if_ | elif | else_ | while_ | for_
  | break_ | continue_
  | try_ | except | finally_
  | pass
  | add | sub | mul | div
deriving DecidableEq, Repr, Inhabited

/-- The word that closes a block, in its four forms. -/
def blockEndWords : List String := ["end", "结束", "完了", "终"]

def isBlockEnd (word : String) : Bool := blockEndWords.contains word

def lineStates : List String := ["~", ">", "<", "!", "?"]

def isLineState (word : String) : Bool := lineStates.contains word

namespace Action

def all : List Action :=
  [print, set, call, define, giveBack, if_, elif, else_, while_, for_, break_, continue_, try_,
    except, finally_, pass, add, sub, mul, div]

/-- The name of an action in trees and messages. -/
def id : Action → String
  | print => "PRINT"
  | set => "SET"
  | call => "CALL"
  | define => "DEF"
  | giveBack => "RETURN"
  | if_ => "IF"
  | elif => "ELIF"
  | else_ => "ELSE"
  | while_ => "WHILE"
  | for_ => "FOR"
  | break_ => "BREAK"
  | continue_ => "CONTINUE"
  | try_ => "TRY"
  | except => "EXCEPT"
  | finally_ => "FINALLY"
  | pass => "PASS"
  | add => "ADD"
  | sub => "SUB"
  | mul => "MUL"
  | div => "DIV"

def words : Action → String × String
  | print => ("print", "印")
  | set => ("set", "置")
  | call => ("call", "调")
  | define => ("def", "定")
  | giveBack => ("return", "回")
  | if_ => ("if", "若")
  | elif => ("elif", "又若")
  | else_ => ("else", "否则")
  | while_ => ("while", "当")
  | for_ => ("for", "扭扭")
  | break_ => ("break", "断")
  | continue_ => ("continue", "续")
  | try_ => ("try", "试")
  | except => ("except", "捕")
  | finally_ => ("finally", "终于")
  | pass => ("pass", "空")
  | add => ("add", "加")
  | sub => ("sub", "减")
  | mul => ("mul", "乘")
  | div => ("div", "除")

def ofWord? (word : String) : Option Action :=
  all.find? fun a => a.words.1 == word || a.words.2 == word

def ofId? (id : String) : Option Action := all.find? fun a => a.id == id

/-- Whether the lines after it belong to it, one level deeper. -/
def opensBlock : Action → Bool
  | define | if_ | elif | else_ | while_ | for_ | try_ | except | finally_ => true
  | _ => false

/-- Whether it is a later clause of a chain that an earlier line began. -/
def continuesChain : Action → Bool
  | elif | else_ | except | finally_ => true
  | _ => false

def sign? : Action → Option String
  | add => some "+"
  | sub => some "-"
  | mul => some "*"
  | div => some "/"
  | _ => none

theorem ofId?_id (a : Action) : ofId? a.id = some a := by cases a <;> decide

end Action

end Flowline
