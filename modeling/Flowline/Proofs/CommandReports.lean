import Mathlib.Tactic.Lemma
import Flowline.Proofs.Arguments
import Flowline.Proofs.StraightCommand

/-!
What the command tells of a source that it compiles.

A source that cannot be read is told of and ends the command with a code. A source that can be read
but not compiled is not: the error leaves the command as it is. So the command reports on a source
unless a line of it does not fit its action.
-/

namespace Flowline.CommandLine

open Straight (warningText)

variable {s : Setting} {source : String} {flags : List String} {p : Program Statement}

/-! ### The steps of the command -/

def warned (s : Setting) (source : String) : World :=
  { printed := warningText source, input := s.input }

/-- The command loads its lexicons, whatever was loaded before, and turns to the source. -/
lemma run_source (s : Setting) (path : String) (flags : List String) (source : String) :
    ∃ lex, s.lexicon.loadPaths s.edition s.hasReader Lexicon.startPaths = (lex, none) ∧
      run s (.ok source) (path :: flags) =
        runSource s lex (Request.ofArgs flags) source { input := s.input } := by
  obtain ⟨lex, hlex⟩ := s.lexicon.loadPaths_startPaths s.edition s.hasReader
  exact ⟨lex, hlex, by simp only [run, hlex]⟩

lemma runSource_error {e : ParseError} (h : parse source = .error e) (s : Setting) (lex : Lexicon)
    (r : Request) :
    runSource s lex r source { input := s.input } =
      ⟨complain e.message (warned s source), .exit 1⟩ := by
  simp only [runSource, h, Straight.foldl_printLine, warned, warningText, World.print,
    String.empty_append]

lemma runSource_lines (h : parse source = .ok p) (s : Setting) (lex : Lexicon) {r : Request}
    (hmode : r.mode = "python") :
    runSource s lex r source { input := s.input } =
      runLines s r.execute p (warned s source) := by
  have hpipeline : pipeline? r.mode p = some .lines := by simp [hmode, pipeline?]
  simp only [runSource, h, hpipeline, Straight.foldl_printLine, warned, warningText, World.print,
    String.empty_append]

lemma run_unread {e : ParseError} (h : parse source = .error e) (s : Setting) (path : String)
    (flags : List String) :
    run s (.ok source) (path :: flags) = ⟨complain e.message (warned s source), .exit 1⟩ := by
  obtain ⟨lex, -, hrun⟩ := run_source s path flags source
  rw [hrun, runSource_error h]

lemma run_compiling (hflags : Request.ofArgs flags = { mode := "python", execute := false })
    (h : parse source = .ok p) (s : Setting) (path : String) :
    run s (.ok source) (path :: flags) = runLines s false p (warned s source) := by
  obtain ⟨lex, -, hrun⟩ := run_source s path flags source
  rw [hrun, hflags, runSource_lines h s lex rfl]

/-! ### Reports -/

def shown (s : Setting) (source code tree : String) : Report where
  world :=
    { printed := warningText source ++ "=== PYTHON ===\n" ++ code ++ "\n\n=== AST ===\n" ++ tree ++
        "\n"
      input := s.input }
  stop := .exit 0

def told (s : Setting) (source message : String) : Report where
  world :=
    { printed := warningText source ++ "[Catapillar Error] " ++ message ++ "\n", input := s.input }
  stop := .exit 1

/-- Reading or compiling a source raises an error that says `message`. -/
inductive Raises (source : String) : String → Prop
  | reading {e : ParseError} (h : parse source = .error e) : Raises source e.message
  | compiling {p : Program Statement} {message : String} (hp : parse source = .ok p)
      (h : FirstUnfit p.statements message) : Raises source message

/-- The command shows what the source is compiled to, or tells of the error that it raises. -/
inductive Reports (s : Setting) (source : String) : Report → Prop
  | shown {p : Program Statement} {code : String} (hp : parse source = .ok p)
      (hcode : p.compile.code = .ok code) :
      Reports s source (shown s source code (p.compile.tree.toDatum Statement.toDatum).shown)
  | told {message : String} (h : Raises source message) : Reports s source (told s source message)

lemma complain_warned (s : Setting) (source message : String) :
    ⟨complain message (warned s source), .exit 1⟩ = told s source message := by
  simp only [complain, warned, World.printLine, World.print, told, String.append_assoc]

lemma runLines_shown {code : String} (hs : s.hasCompiler = true)
    (hcode : p.compile.code = .ok code) :
    runLines s false p (warned s source) =
      shown s source code (p.compile.tree.toDatum Statement.toDatum).shown := by
  simp only [runLines, hs, hcode, showTree, warned, World.printLine, World.print, shown,
    String.append_assoc, Bool.not_true, Bool.false_eq_true, if_false]
  rfl

lemma runLines_escapes {e : EmitError} (hs : s.hasCompiler = true)
    (he : p.compile.code = .error e) (w : World) :
    runLines s false p w = ⟨w, .fault (.emit e)⟩ := by
  simp only [runLines, hs, he, Bool.not_true, Bool.false_eq_true, if_false]

lemma not_reports_fault (w : World) (f : Fault) : ¬ Reports s source ⟨w, .fault f⟩ := by
  intro h
  cases h

/-- Without the compiler the command ends well, but there is no text to show. -/
lemma not_reports_missing (hs : s.hasCompiler = false) :
    ¬ Reports s source (runLines s false p (warned s source)) := by
  intro h
  generalize hr : runLines s false p (warned s source) = r at h
  simp only [runLines, hs, Bool.not_false, if_true, complain, showTree, World.printLine,
    World.print, warned, String.append_assoc] at hr
  cases h with
  | @shown q code hq hcode =>
    have hprinted := congrArg (fun r => r.world.printed) hr
    simp only [shown, String.append_assoc, String.append_right_inj] at hprinted
    have hfirst := congrArg (fun t => t.toList.head?) hprinted
    simp at hfirst
  | told h =>
    have hstop := congrArg Report.stop hr
    simp [told] at hstop

lemma run_escapes {said : String}
    (hflags : Request.ofArgs flags = { mode := "python", execute := false })
    (hp : parse source = .ok p) (hs : s.hasCompiler = true) (h : FirstUnfit p.statements said)
    (path : String) :
    ∃ e, e.message = said ∧
      run s (.ok source) (path :: flags) = ⟨warned s source, .fault (.emit e)⟩ := by
  obtain ⟨-, hfits⟩ | ⟨e, he, -, htells⟩ := compile_tells p
  · obtain ⟨t, ht, hunfit⟩ := h.exists_mem
    exact absurd hunfit (hfits t ht said)
  · refine ⟨e, ((htells said).mp h).symm, ?_⟩
    rw [run_compiling hflags hp, runLines_escapes hs he]

/-- **Reports**: the command reports on a source unless it can be read and a line of it does not fit
its action, or the compiler is missing. Nothing is told of such a line: its error leaves the
command. -/
theorem reports_iff (s : Setting) (path : String) (flags : List String)
    (hflags : Request.ofArgs flags = { mode := "python", execute := false }) (source : String) :
    (Reports s source (run s (.ok source) (path :: flags)) ↔
      ∀ p, parse source = .ok p →
        s.hasCompiler = true ∧ ∀ t ∈ p.statements, ∀ said, ¬ t.Unfit said) ∧
    ∀ p said, parse source = .ok p → s.hasCompiler = true → FirstUnfit p.statements said →
      ∃ e, e.message = said ∧
        run s (.ok source) (path :: flags) = ⟨warned s source, .fault (.emit e)⟩ := by
  refine ⟨?_, fun p said hp hs h => run_escapes hflags hp hs h path⟩
  cases hp : parse source with
  | error e =>
    rw [run_unread hp, complain_warned]
    exact ⟨fun _ p h => (nomatch h), fun _ => .told (.reading hp)⟩
  | ok p =>
    simp only [Except.ok.injEq, forall_eq']
    cases hs : s.hasCompiler with
    | false =>
      rw [run_compiling hflags hp]
      simpa using not_reports_missing hs
    | true =>
      obtain ⟨⟨code, hcode⟩, hfits⟩ | ⟨e, he, -, htells⟩ := compile_tells p
      · -- every line fits
        rw [run_compiling hflags hp, runLines_shown hs hcode]
        exact iff_of_true (.shown hp hcode) ⟨rfl, hfits⟩
      · -- the error of a line that does not fit escapes
        obtain ⟨t, ht, hunfit⟩ := ((htells _).mpr rfl).exists_mem
        rw [run_compiling hflags hp, runLines_escapes hs he]
        exact iff_of_false (not_reports_fault _ _) fun h => h.2 t ht _ hunfit

def notedLine : String := "print x # shown\n"

theorem notedLine_reported :
    Request.ofArgs ["--mode= Python"] = { mode := "python", execute := false } ∧
      Reports {} notedLine (run {} (.ok notedLine) ["noted.cat", "--mode= Python"]) := by
  have hflags : Request.ofArgs ["--mode= Python"] = { mode := "python", execute := false } := by
    decide +kernel
  refine ⟨hflags, (reports_iff {} "noted.cat" _ hflags notedLine).1.mpr fun p hp => ⟨rfl, ?_⟩⟩
  have hparse : parse notedLine = .ok ⟨[[[.line .print ["x"] "~"]]]⟩ := by decide +kernel
  obtain rfl := Except.ok.inj (hparse.symm.trans hp)
  intro t ht said h
  obtain rfl := List.mem_singleton.mp ht
  exact h

def valueless : String := "set x\n"

theorem valueless_escapes :
    Raises valueless "SET expects at least 2 arguments: variable value" ∧
      (∃ e, e.message = "SET expects at least 2 arguments: variable value" ∧
        run {} (.ok valueless) ["valueless.cat", "--mode=python"] =
          ⟨warned {} valueless, .fault (.emit e)⟩) ∧
      ¬ Reports {} valueless (run {} (.ok valueless) ["valueless.cat", "--mode=python"]) := by
  have hflags : Request.ofArgs ["--mode=python"] = { mode := "python", execute := false } := by
    decide +kernel
  have hp : parse valueless = .ok ⟨[[[.line .set ["x"] "~"]]]⟩ := by decide +kernel
  have hfirst : FirstUnfit [.line .set ["x"] "~"]
      "SET expects at least 2 arguments: variable value" :=
    ⟨[], _, [], rfl, by simp, BadAssignment.short (by decide)⟩
  obtain ⟨e, hsaid, hrun⟩ := run_escapes (s := {}) hflags hp rfl hfirst "valueless.cat"
  refine ⟨.compiling hp hfirst, ⟨e, hsaid, hrun⟩, ?_⟩
  rw [hrun]
  exact not_reports_fault _ _

end Flowline.CommandLine
