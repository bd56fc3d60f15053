import Mathlib.Tactic.ByContra
import Mathlib.Tactic.Lemma
import Flowline.CommandLine
import Flowline.Proofs.Lexicons
import Flowline.Proofs.StraightRun

/-!
Straight-line sources keep their meaning.

The command reads the file, compiles its lines to the program of the commands they spell and runs
it. So what it prints after the heading of the run are the values of the commands; and where the
program cannot be read, the command ends without printing any.
-/

namespace Flowline.Straight

open CommandLine

/-! ### The command -/

def warningText (source : String) : String :=
  String.join ((sourceWarnings source).map fun t => "[Catapillar Warning] " ++ t ++ "\n")

/-- The report of a command that generates a program, runs it and shows the tree of the source. -/
def executed (s : Setting) (source code : String) (values : List Int) (tree : String) : Report where
  world :=
    { printed := warningText source ++ "=== PYTHON ===\n" ++ code ++ "\n\n=== EXEC ===\n" ++
        listing values ++ "\n=== AST ===\n" ++ tree ++ "\n"
      input := s.input }
  stop := .exit 0

/-- The report of a command whose generated program cannot be read. -/
def refused (s : Setting) (source code : String) (e : Script.ReadError) : Report where
  world :=
    { printed := warningText source ++ "=== PYTHON ===\n" ++ code ++ "\n\n=== EXEC ===\n"
      input := s.input }
  stop := .broken (.unreadable e)

lemma foldl_printLine (ts : List String) (w : World) :
    ts.foldl (fun w t => w.printLine ("[Catapillar Warning] " ++ t)) w =
      w.print (String.join (ts.map fun t => "[Catapillar Warning] " ++ t ++ "\n")) := by
  induction ts generalizing w with
  | nil => simp [World.print]
  | cons t ts ih =>
    rw [List.foldl_cons, ih]
    simp [World.print, World.printLine, String.join_cons, String.append_assoc]

section

variable {s : Setting} {source : String} {flags : List String} {cs : List Command}

/-- The command compiles a straight-line source and runs its program. -/
lemma run_of_spells (s : Setting) (path : String)
    (hflags : Request.ofArgs flags = { mode := "python", execute := true })
    (hcs : Spells false (Text.sourceLines source.toList) cs) (hnamed : ∀ c ∈ cs, c.IsNamed) :
    ∃ p, parse source = .ok p ∧ p.compile.code = .ok (program cs) ∧
      CommandLine.run s (.ok source) (path :: flags) =
        runLines s true p { printed := warningText source, input := s.input } := by
  obtain ⟨p, hp, hstatements⟩ := parse_of_spells hcs hnamed
  obtain ⟨lex, hlex⟩ := s.lexicon.loadPaths_startPaths s.edition s.hasReader
  have hpipeline : pipeline? "python" p = some .lines := by simp [pipeline?]
  have hwarned : ({ input := s.input } : World).print (warningText source) =
      { printed := warningText source, input := s.input } := by simp [World.print]
  refine ⟨p, hp, compile_of_statements hstatements hnamed, ?_⟩
  simp only [CommandLine.run, hlex, hflags, runSource, hp, hpipeline, foldl_printLine]
  rw [← hwarned, warningText]

lemma runLines_finished (hs : s.hasCompiler = true) {p : Program Statement} {code : String}
    (hcode : p.compile.code = .ok code) {values : List Int}
    (hrun : Script.run code s.input = (listing values, .finished)) :
    runLines s true p { printed := warningText source, input := s.input } =
      executed s source code values (p.compile.tree.toDatum Statement.toDatum).shown := by
  simp only [runLines, hs, hcode, World.printLine, World.print, hrun, showTree, executed,
    Bool.not_true, Bool.false_eq_true, if_false, if_true, String.append_assoc]
  rfl

lemma runLines_unreadable (hs : s.hasCompiler = true) {p : Program Statement} {code : String}
    (hcode : p.compile.code = .ok code) {e : Script.ReadError}
    (hrun : Script.run code s.input = ("", .unreadable e)) :
    runLines s true p { printed := warningText source, input := s.input } =
      refused s source code e := by
  simp only [runLines, hs, hcode, World.printLine, World.print, hrun, refused, Bool.not_true,
    Bool.false_eq_true, if_false, if_true, String.append_assoc]
  rfl

/-- A source with a command that is not readable is compiled, but the program is refused. -/
lemma run_refused (hs : s.hasCompiler = true) (path : String)
    (hflags : Request.ofArgs flags = { mode := "python", execute := true })
    (hcs : Spells false (Text.sourceLines source.toList) cs) (hnamed : ∀ c ∈ cs, c.IsNamed)
    (h : ¬ ∀ c ∈ cs, c.IsReadable) :
    ∃ e, CommandLine.run s (.ok source) (path :: flags) = refused s source (program cs) e ∧
      e.isIndentation = false := by
  obtain ⟨p, -, hcode, hrun⟩ := run_of_spells s path hflags hcs hnamed
  obtain ⟨e, he, hindent⟩ := run_unreadable hnamed s.input h
  exact ⟨e, hrun.trans (runLines_unreadable hs hcode he), hindent⟩

end

/-- **Straight-line sources keep their meaning.** The command prints, after the heading of the run,
exactly the values of the commands, one a line and in order, if no number of the source has too many
digits and the name of the constant is not assigned. Otherwise it prints the program, which is
refused before it prints anything, and not for its indentation. -/
theorem executed_iff_readable (s : Setting) (hs : s.hasCompiler = true) (path : String)
    (flags : List String) (hflags : Request.ofArgs flags = { mode := "python", execute := true })
    (bytes : List UInt8) (text : List Char) (hbytes : Text.decode bytes = .ok text)
    (cs : List Command) (hcs : Spells false (Text.sourceLines text) cs)
    (hnamed : ∀ c ∈ cs, c.IsNamed) (hscoped : Scoped [] cs) (env : String → Int)
    (hshort : ∀ v ∈ evaluate env cs, (toString v.natAbs).length ≤ Script.digitLimit) :
    ((∃ source p, fileSource bytes = .ok source ∧ parse source = .ok p ∧
        CommandLine.run s (fileSource bytes) (path :: flags) =
          executed s source (program cs) (evaluate env cs)
            (p.compile.tree.toDatum Statement.toDatum).shown) ↔
      ∀ c ∈ cs, c.IsReadable) ∧
    ((¬ ∀ c ∈ cs, c.IsReadable) → ∃ source e, fileSource bytes = .ok source ∧
      CommandLine.run s (fileSource bytes) (path :: flags) = refused s source (program cs) e ∧
      e.isIndentation = false) := by
  have hsource : fileSource bytes = .ok (String.ofList (Text.unifyBreaks text)) := by
    simp only [fileSource, hbytes]
  have hspells : Spells false
      (Text.sourceLines (String.ofList (Text.unifyBreaks text)).toList) cs := by
    rw [String.toList_ofList, sourceLines_unifyBreaks]
    exact hcs
  rw [hsource]
  have hrefused := run_refused hs path hflags hspells hnamed
  refine ⟨⟨?_, fun hreadable => ?_⟩, fun hno => ?_⟩
  · -- the two reports stop in different ways, so that the one excludes the other
    rintro ⟨source, p, -, -, hrun⟩
    by_contra hno
    obtain ⟨e, he, -⟩ := hrefused hno
    rw [hrun] at he
    exact absurd (congrArg Report.stop he) (by simp [executed, refused])
  · obtain ⟨p, hp, hcode, hrun⟩ := run_of_spells s path hflags hspells hnamed
    have hprogram := run_program hnamed hscoped env hshort s.input hreadable
    exact ⟨_, p, rfl, hp, hrun.trans (runLines_finished hs hcode hprogram)⟩
  · obtain ⟨e, he, hindent⟩ := hrefused hno
    exact ⟨_, e, rfl, he, hindent⟩

/-! ### A source and what it prints -/

/-- Both words of the actions, marks, comments of all kinds and a number below zero. -/
def mixedText : List Char :=
  ("# two numbers\nset a 12\r\n>  置\tb -5   # below zero\n\n~~\nset a 0\n~~\n" ++
    "! mul a2 a b\nprint a2\n减 a a2 b\n? 印 a").toList

def mixedCommands : List Command :=
  [.assign "a" (.term (.whole false 12)), .assign "b" (.term (.whole true 5)),
    .assign "a2" (.operate .mul (.name "a") (.name "b")), .print "a2",
    .assign "a" (.operate .sub (.name "a2") (.name "b")), .print "a"]

def mixedBytes : List UInt8 := mixedText.flatMap String.utf8EncodeChar

lemma mixed_spells : Spells false (Text.sourceLines mixedText) mixedCommands := by
  have hlines : Text.sourceLines mixedText =
      ["# two numbers".toList, "set a 12".toList, ">  置\tb -5   # below zero".toList, [],
        "~~".toList, "set a 0".toList, "~~".toList, "! mul a2 a b".toList, "print a2".toList,
        "减 a a2 b".toList, "? 印 a".toList] := by decide +kernel
  rw [hlines]
  refine .empty (by decide +kernel) <| .command ⟨"set", .inl rfl, .inl (by decide +kernel)⟩ <|
    .command ⟨"置", .inr rfl, .inr ⟨">", by decide, by decide +kernel⟩⟩ <|
    .empty (by decide +kernel) <| .fence (by decide +kernel) <| .hidden (by decide +kernel) <|
    .fence (by decide +kernel) <|
    .command ⟨"mul", .inl rfl, .inr ⟨"!", by decide, by decide +kernel⟩⟩ <|
    .command ⟨"print", .inl rfl, .inl (by decide +kernel)⟩ <|
    .command ⟨"减", .inr rfl, .inl (by decide +kernel)⟩ <|
    .command ⟨"印", .inr rfl, .inr ⟨"?", by decide, by decide +kernel⟩⟩ .done

theorem mixed_executed :
    Spells false (Text.sourceLines mixedText) mixedCommands ∧
      evaluate (fun _ => 0) mixedCommands = [-60, -55] ∧
      ∃ source p, fileSource mixedBytes = .ok source ∧ parse source = .ok p ∧
        CommandLine.run {} (fileSource mixedBytes) ["mixed.cat", "--mode=python", "--exec"] =
          executed {} source (program mixedCommands) (evaluate (fun _ => 0) mixedCommands)
            (p.compile.tree.toDatum Statement.toDatum).shown := by
  refine ⟨mixed_spells, by decide +kernel, ?_⟩
  exact (executed_iff_readable {} rfl "mixed.cat" ["--mode=python", "--exec"] (by decide +kernel)
    mixedBytes mixedText (by decide +kernel) mixedCommands mixed_spells (by decide +kernel)
    (by decide +kernel) (fun _ => 0) (by decide +kernel)).1.mpr (by decide +kernel)

/-! ### Sources that are refused -/

/-- An identifier that is no reserved word and still cannot be assigned. -/
def fixedNameText : List Char := "set __debug__ 5\nprint __debug__\n".toList

def fixedNameCommands : List Command :=
  [.assign "__debug__" (.term (.whole false 5)), .print "__debug__"]

lemma fixedName_spells : Spells false (Text.sourceLines fixedNameText) fixedNameCommands := by
  have hlines : Text.sourceLines fixedNameText =
      ["set __debug__ 5".toList, "print __debug__".toList] := by decide +kernel
  rw [hlines]
  exact .command ⟨"set", .inl rfl, .inl (by decide +kernel)⟩ <|
    .command ⟨"print", .inl rfl, .inl (by decide +kernel)⟩ .done

def numberText (n : Nat) : List Char := "set x ".toList ++ digits n

def numberCommands (n : Nat) : List Command := [.assign "x" (.term (.whole false n))]

/-- A digit stands in a word: it parts neither words nor lines and begins no comment. -/
lemma digit_in_word {c : Char} (h : c.isDigit = true) :
    Text.isBlank c = false ∧ Text.isLineBreak c = false ∧ c ≠ '#' := by
  refine ascii_forall (P := fun c => c.isDigit = true →
    Text.isBlank c = false ∧ Text.isLineBreak c = false ∧ c ≠ '#') ?_ (ascii_of_isDigit h) h
  decide +kernel

lemma sourceLines_numberText (n : Nat) : Text.sourceLines (numberText n) = [numberText n] := by
  have hne : numberText n ≠ [] := List.append_ne_nil_of_left_ne_nil (by decide) _
  have hset : ∀ c ∈ "set x ".toList, Text.isLineBreak c = false :=
    forall_mem_of_all (by decide)
  refine sourceLines_of_forall_not hne fun c hc => ?_
  rcases List.mem_append.mp hc with hc | hc
  · exact hset c hc
  · exact (digit_in_word (isDigit_of_mem_digits hc)).2.1

lemma lineWords_numberText (n : Nat) :
    lineWords (numberText n) = ["set", "x", (Term.whole false n).text] := by
  have hhash : '#' ∉ numberText n := by
    intro hm
    rcases List.mem_append.mp hm with hm | hm
    · exact absurd hm (by decide)
    · exact notMem_digits (by decide) n hm
  have hcut : numberText n = "set".toList ++ ' ' :: ("x".toList ++ ' ' :: digits n) := rfl
  have hset : Text.words Text.isBlank "set".toList = ["set".toList] := by decide +kernel
  have hx : Text.words Text.isBlank "x".toList = ["x".toList] := by decide +kernel
  have hdigits : Text.words Text.isBlank (digits n) = [digits n] :=
    words_of_forall_not (digits_ne_nil n) fun c hc => (digit_in_word (isDigit_of_mem_digits hc)).1
  have htext : String.ofList (digits n) = (Term.whole false n).text := by
    rw [← toList_toString, String.ofList_toList]
    simp [Term.text]
  rw [lineWords, beforeHash_of_notMem hhash, hcut, words_append_cons _ _ (by decide),
    words_append_cons _ _ (by decide), hset, hx, hdigits]
  simp [htext]

lemma number_spells (n : Nat) :
    Spells false (Text.sourceLines (numberText n)) (numberCommands n) := by
  rw [sourceLines_numberText]
  exact .command ⟨"set", .inl rfl, .inl (lineWords_numberText n)⟩ .done

lemma number_named (n : Nat) : ∀ c ∈ numberCommands n, c.IsNamed := by
  intro c hc
  obtain rfl := List.mem_singleton.mp hc
  exact fun y hy => by
    obtain rfl : y = "x" := by simpa [Command.names, Command.assigned, Command.terms, Formula.terms,
      Term.names] using hy
    decide +kernel

/-- The least number with too many digits. -/
@[irreducible] def longNumber : Nat := Nat.pow 10 Script.digitLimit

lemma longNumber_unreadable : ¬ ∀ c ∈ numberCommands longNumber, c.IsReadable := by
  intro h
  have hshort := (h _ (List.mem_singleton_self _)).short (.whole false longNumber)
    (by simp [Command.terms, Formula.terms])
  rw [Term.IsShort, length_toString, length_digits_le_iff (by decide)] at hshort
  unfold longNumber at hshort
  exact Nat.lt_irrefl _ hshort

theorem fixedName_longNumber_refused :
    (Spells false (Text.sourceLines fixedNameText) fixedNameCommands ∧
      (∀ c ∈ fixedNameCommands, c.IsNamed) ∧ Scoped [] fixedNameCommands ∧
      evaluate (fun _ => 0) fixedNameCommands = [5] ∧
      ∃ e, (CommandLine.run {} (.ok (String.ofList fixedNameText))
        ["fixed.cat", "--mode=python", "--exec"]).stop = .broken (.unreadable e)) ∧
    (Spells false (Text.sourceLines (numberText longNumber)) (numberCommands longNumber) ∧
      (∀ c ∈ numberCommands longNumber, c.IsNamed) ∧ Scoped [] (numberCommands longNumber) ∧
      evaluate (fun _ => 0) (numberCommands longNumber) = [] ∧
      ∃ e, (CommandLine.run {} (.ok (String.ofList (numberText longNumber)))
        ["long.cat", "--mode=python", "--exec"]).stop = .broken (.unreadable e)) := by
  have hflags : Request.ofArgs ["--mode=python", "--exec"] = ⟨"python", true⟩ := by decide +kernel
  have hcompiler : ({} : Setting).hasCompiler = true := rfl
  refine ⟨⟨fixedName_spells, by decide +kernel, by decide +kernel, by decide +kernel, ?_⟩,
    number_spells longNumber, number_named longNumber, ?_, rfl, ?_⟩
  · obtain ⟨e, he, -⟩ := run_refused hcompiler "fixed.cat" hflags
      (by rw [String.toList_ofList]; exact fixedName_spells) (by decide +kernel) (by decide +kernel)
    exact ⟨e, congrArg Report.stop he⟩
  · simp [numberCommands, Scoped, Command.terms, Formula.terms, Term.names]
  · obtain ⟨e, he, -⟩ := run_refused hcompiler "long.cat" hflags
      (by rw [String.toList_ofList]; exact number_spells _) (number_named _) longNumber_unreadable
    exact ⟨e, congrArg Report.stop he⟩

end Flowline.Straight
