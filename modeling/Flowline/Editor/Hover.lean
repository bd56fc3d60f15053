import Flowline.Editor.Keyword
import Flowline.Editor.Navigation

/-!
# What the editor says about a word

Over a keyword the editor shows its description, over an operator its meaning, over a name where it
is defined, and over a mark what the mark is for.
-/

namespace Flowline.Editor

structure Hover where
  contents : String
  range : Option Range
deriving DecidableEq, Repr

def asCode (s : String) : String := "`" ++ s ++ "`"

def Keyword.hover (k : Keyword) (word : String) : Hover :=
  let others := k.forms.filter (· != word)
  ⟨"**" ++ word ++ "** " ++ asCode ("[" ++ k.id ++ "]") ++ "\n\n" ++
    (if others.isEmpty then ""
      else "Aliases: " ++ ", ".intercalate (others.map asCode) ++ "\n\n") ++
    "Category: *" ++ k.category.name ++ "*\n\n---\n\n" ++
    k.detail.en ++ "\n\n" ++ k.detail.zh ++ "\n\n" ++ k.detail.ja ++ "\n", none⟩

def Operator.hover (o : Operator) (range : Range) : Hover :=
  ⟨"**" ++ o.form ++ "** → " ++ asCode o.meaning ++ "\n\n" ++
    o.description.en ++ " | " ++ o.description.zh ++ " | " ++ o.description.ja, some range⟩

def Symbol.hover (s : Symbol) (range : Range) : Hover :=
  match s with
  | .function name params line =>
    ⟨"\n```" ++ languageId ++ "\n定 " ++ name ++ paramText params ++ "\n```\n" ++
      s!"\n\nDefined at line {line}", some range⟩
  | .binding name line =>
    ⟨"**variable** " ++ asCode name ++ "\n\n" ++ s!"First assigned at line {line}", some range⟩

def markInfo? (mark : String) : Option (String × String) :=
  if mark = "~" then some ("Continue", "Default line state — continues current segment")
  else if mark = ">" then some ("Advance", "Segment boundary — advance to next segment")
  else if mark = "<" then some ("Return/Echo", "Return — refers back to previous segment")
  else if mark = "!" then some ("Strong/Commit", "Critical action — must succeed")
  else if mark = "?" then some ("Tentative/Await", "Awaiting external input")
  else none

def markHover? (mark : String) : Option Hover :=
  (markInfo? mark).map fun (name, purpose) =>
    ⟨"**Line State " ++ asCode mark ++ "** — " ++ name ++ "\n\n" ++ purpose, none⟩

def Document.hover? (d : Document) (p : Position) : Option Hover :=
  match d.wordAt? p with
  | none => markHover? (String.ofList (d.slice ⟨p, { p with column := p.column + 1 }⟩))
  | some (word, range) =>
    match keywordOf? word, operators.find? (fun o => o.form == word) with
    | some k, _ => some (k.hover word)
    | none, some o => some (o.hover range)
    | none, none => (d.symbol? word).map fun s => s.hover range

end Flowline.Editor
