import Flowline.Editor.Keyword
import Flowline.Editor.Navigation

/-!
# Completion

At the beginning of a line, or after its mark, the editor proposes marks and keywords; further on it
proposes what fits the first word of the line, and always the names that the document defines.
Keywords are proposed in the language of what has been typed.
-/

namespace Flowline.Editor

inductive ItemKind
  | operator
  | keyword
  | struct
  | function
  | variable_
deriving DecidableEq, Repr

structure Item where
  label : String
  kind : ItemKind
  detail : Option String := none
  documentation : Option String := none
  sortText : Option String := none
  insertText : Option String := none
deriving DecidableEq, Repr

structure CompletionOptions where
  showChinese : Bool := true
  showEnglish : Bool := true
deriving DecidableEq, Repr

def isIdeograph (c : Char) : Bool := 0x4E00 ≤ c.toNat && c.toNat ≤ 0x9FFF

def itemKind : Category → ItemKind
  | .control => .keyword
  | .arithmetic => .operator
  | .blockEnd => .struct
  | .action | .lineState => .function

def sortDigit : Category → String
  | .control => "1"
  | .action => "2"
  | .arithmetic => "3"
  | .blockEnd | .lineState => "4"

def isProposed (o : CompletionOptions) (typed : List Char) (form : String) : Bool :=
  let chinese := form.toList.any isIdeograph
  -- what has been typed decides on the language before the options do
  !(typed.any Char.isAlpha && chinese) && !(typed.any isIdeograph && !chinese) &&
    (if chinese then o.showChinese else o.showEnglish)

/-- The text that a keyword with a block inserts, with two places to fill in. -/
def blockSnippet (form : String) : String :=
  form ++ " $\x7b1\x7d:\n$\x7b2\x7d\n终"

def Keyword.items (k : Keyword) (o : CompletionOptions) (typed : List Char) : List Item :=
  (k.forms.filter (isProposed o typed)).map fun form =>
    { label := form
      kind := itemKind k.category
      detail := some ("[" ++ k.id ++ "] " ++ k.description.en)
      documentation := some k.detail.en
      sortText := some (sortDigit k.category ++ form)
      insertText := if k.opensBlock then some (blockSnippet form) else none }

def markItem (k : Keyword) : Item :=
  { label := k.id, kind := .operator, detail := some k.description.en
    documentation := some k.detail.en, sortText := some ("0" ++ k.id) }

def Operator.item (op : Operator) : Item :=
  { label := op.form, kind := .operator
    detail := some (op.meaning ++ " — " ++ op.description.en) }

def Symbol.item : Symbol → Item
  | .function name params line =>
    { label := name, kind := .function, detail := some ("定 " ++ name ++ paramText params)
      documentation := some s!"Defined at line {line}" }
  | .binding name line =>
    { label := name, kind := .variable_, detail := some s!"variable (line {line})" }

/-- The functions that a value may be made with. -/
def valueFunctions : List String := ["input", "float", "int", "str"]

def valueFunctionItem (f : String) : Item :=
  { label := f, kind := .function, detail := some ("Built-in: " ++ f ++ "()") }

def Document.functionItems (d : Document) : List Item := d.analysis.functions.map Symbol.item

def Document.variableItems (d : Document) : List Item :=
  (distinctNames [] d.analysis.bindings).map Symbol.item

/-- The words of a text, and an empty one at the end of a text that ends with a blank. The text does
not begin with a blank. -/
def typedWords (text : List Char) : List (List Char) :=
  let ws := Text.words Text.isEditorBlank text
  if text.getLast?.any Text.isEditorBlank || ws.isEmpty then ws ++ [[]] else ws

/-- Whether nothing but a mark stands before the cursor. -/
def isLineStart : List Char → Bool
  | [] => true
  | c :: cs => isLineState (String.ofList [c]) && cs.all Text.isEditorBlank

/-- What stands before the cursor, without blanks at the beginning. A character that the cursor cuts
in two still counts as one. -/
def beforeCursor (line : List Char) (column : Nat) : List Char :=
  let cut := Text.takeUnits column line
  let half := if Text.units cut < column && cut.length < line.length then ['\ufffd'] else []
  Text.trimStart Text.isEditorBlank (cut ++ half)

def lineStartItems (o : CompletionOptions) (before : List Char) : List Item :=
  let typed := ((Text.words Text.isEditorBlank before).head?).getD []
  lineStateKeywords.map markItem ++
    (actionKeywords ++ [blockEndKeyword]).flatMap fun k => k.items o typed

def isCondition (w : String) : Bool :=
  ["若", "if", "又若", "elif", "当", "while"].contains w

def Document.contextItems (d : Document) (o : CompletionOptions) (ws : List (List Char)) :
    List Item :=
  let first := String.ofList (ws.headD [])
  (if isCondition first then operators.map Operator.item else []) ++
    (if first = "调" || first = "call" then d.functionItems else []) ++
    if first = "置" || first = "set" then
      if ws.length ≤ 2 then d.variableItems
      else
        ((actionKeywords.filter fun k => k.category = .arithmetic).flatMap fun k =>
          k.items o (ws.getLastD [])) ++ valueFunctions.map valueFunctionItem
    else []

def Document.completions (d : Document) (o : CompletionOptions) (p : Position) :
    Except EditorFault (List Item) := do
  let before := beforeCursor (← d.line p.line) p.column
  if isLineStart before then return lineStartItems o before
  else
    return d.contextItems o (typedWords before) ++ d.functionItems ++ d.variableItems

end Flowline.Editor
