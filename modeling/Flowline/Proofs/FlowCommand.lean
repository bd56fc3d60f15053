import Mathlib.Tactic.Lemma
import Flowline.Proofs.CommandReports
import Flowline.Proofs.RobotRuns

/-!
The command on the arrows of a source.

A flow is run from an empty context with the robot's router. Every intent that the lexicons give to
a word has a node, every intent that the router names has one, and what the nodes leave in the
context is what the next of them expects. These three are kept by every turn of a run, so no run
fails and the command always ends well.
-/

namespace Flowline

variable {σ : Type}

def HasNode (intent : String) : Prop := ∃ n : Node, n.intent = intent

/-! ### Runs that keep a condition -/

namespace Engine

/-- The step that is due ends the run or goes to an intent with a node. -/
def Knows (e : Engine σ) : Next → Prop
  | .stop => True
  | .go intent => intent ∈ e.intents
  | .fail _ => False

/-- Where the condition holds, every node returns and keeps it, and after it the router names a step
that the engine knows. -/
def Keeps (e : Engine σ) (I : σ → Prop) : Prop :=
  ∀ intent node s, e.nodes.lookup intent = some node → I s →
    ∃ t d, node s = (t, none) ∧ I t ∧ e.route intent t = .ok d ∧ e.Knows (.ofDatum d)

variable {e : Engine σ} {I : σ → Prop}

/-- Every path keeps the condition and leads to known steps. -/
lemma Keeps.leads (h : e.Keeps I) {s t : σ} {next due : Next} {is : List String}
    (hleads : e.Leads s next is t due) (hs : I s) (hnext : e.Knows next) : I t ∧ e.Knows due := by
  induction hleads with
  | here => exact ⟨hs, hnext⟩
  | turn found ran named onward ih =>
    obtain ⟨t', d', ran', ht, named', hd⟩ := h _ _ _ found hs
    obtain ⟨rfl, -⟩ := Prod.mk.inj (ran'.symm.trans ran)
    obtain rfl := Except.ok.inj (named'.symm.trans named)
    exact ih ht hd

lemma Keeps.runFrom (h : e.Keeps I) (executed : List String) (s : σ) (next : Next) (hs : I s)
    (hnext : e.Knows next) : (e.runFrom executed s next).ending.fault? = none := by
  fun_induction Engine.runFrom e executed s next with
  | case1 => rfl
  | case2 => exact absurd hnext id
  | case3 => rfl
  | case4 executed s intent hnew found => exact absurd hnext (lookup_eq_none_iff.mp found)
  | case5 executed s intent hnew node found t f ran =>
    obtain ⟨t', d, ran', -⟩ := h _ _ _ found hs
    simp [ran] at ran'
  | case6 executed s intent hnew node found t ran f named =>
    obtain ⟨t', d, ran', -, named', -⟩ := h _ _ _ found hs
    obtain ⟨rfl, -⟩ := Prod.mk.inj (ran'.symm.trans ran)
    simp [named] at named'
  | case7 executed s intent hnew node found t ran d named ih =>
    obtain ⟨t', d', ran', ht, named', hd⟩ := h _ _ _ found hs
    obtain ⟨rfl, -⟩ := Prod.mk.inj (ran'.symm.trans ran)
    obtain rfl := Except.ok.inj (named'.symm.trans named)
    exact ih ht hd

lemma Keeps.executed_ne_nil (h : e.Keeps I) {intent : String} (hmem : intent ∈ e.intents) {s : σ}
    (hs : I s) : (e.runFrom [] s (.go intent)).executed ≠ [] := by
  cases found : e.nodes.lookup intent with
  | none => exact absurd hmem (lookup_eq_none_iff.mp found)
  | some node =>
    obtain ⟨t, d, ran, -, named, -⟩ := h _ _ _ found hs
    have hfirst := e.executed_runFrom ([] ++ [intent]) t (.ofDatum d)
    rw [← runFrom_turn (by simp) found ran named] at hfirst
    intro hnil
    simp [hnil] at hfirst

end Engine

/-! ### What the nodes leave in the context -/

namespace Robot

/-- What may stand in a field of a context: texts where the nodes expect texts, and an intent that
has a node where the router looks for one. -/
def Admits (field : String) (v : Datum) : Prop :=
  (field ∈ ["input", "text", "url", "response_body"] → ∃ s, v = .text s) ∧
    (field = "resolved_intent" → ∃ found, v = .ofFound found ∧ ∀ x ∈ found, HasNode x)

structure Steady (c : Record) : Prop where
  distinct : Record.Distinct c
  admits : ∀ field v, c.lookup field = some v → Admits field v

lemma steady_nil : Steady [] := ⟨List.nodup_nil, by simp⟩

lemma Steady.put {c : Record} (h : Steady c) {field : String} {v : Datum} (hv : Admits field v) :
    Steady (Record.put c field v) := by
  refine ⟨h.distinct.put field v, fun name w hw => ?_⟩
  rw [Record.lookup_put] at hw
  split at hw
  · next heq =>
    obtain rfl := Option.some.inj hw
    exact heq ▸ hv
  · exact h.admits name w hw

lemma Steady.text {c : Record} (h : Steady c) (field : String)
    (hfield : field ∈ ["input", "text", "url", "response_body"]) :
    ∃ s, Record.getD c field (.text "") = .text s := by
  rw [Record.getD]
  cases hv : c.lookup field with
  | none => exact ⟨"", rfl⟩
  | some v => exact (h.admits field v hv).1 hfield

lemma Steady.found {c : Record} (h : Steady c) :
    ∃ found, Record.getD c "resolved_intent" .null = .ofFound found ∧ ∀ x ∈ found, HasNode x := by
  rw [Record.getD]
  cases hv : c.lookup "resolved_intent" with
  | none => exact ⟨none, rfl, by simp⟩
  | some v => exact (h.admits _ v hv).2 rfl

lemma admits_text {field : String} (s : String) (h : field ≠ "resolved_intent") :
    Admits field (.text s) :=
  ⟨fun _ => ⟨s, rfl⟩, fun heq => absurd heq h⟩

lemma admits_other {field : String} (v : Datum)
    (h : field ∉ ["input", "text", "url", "response_body", "resolved_intent"]) :
    Admits field v := by
  simp only [List.mem_cons, List.not_mem_nil, or_false, not_or] at h
  simp [Admits, h]

/-- Every node but the one that asks for an address returns and leaves a steady context. -/
lemma step_steady {env : Surroundings} {w : World} {n : Node} (hn : n ≠ .askAddress)
    (hlex : ∀ word intent, env.lexicon.ofWord? word = some intent → HasNode intent)
    (hw : Steady w.context) : ∃ t, n.step env w = (t, none) ∧ Steady t.context := by
  by_cases hsays : n.onlySays = true
  · -- nodes that only say something leave the context
    obtain ⟨t, hstep, ht, -⟩ := Node.step_of_onlySays env hsays hw.distinct
    exact ⟨t, hstep, ht ▸ hw⟩
  cases n with
  | receive =>
    obtain ⟨t, hstep, ht, -⟩ := Node.step_receive env (w := w)
    obtain ⟨input, hinput⟩ := hw.text "input" (by decide)
    refine ⟨t, hstep, ?_⟩
    rw [ht, World.getD, hinput]
    exact hw.put (admits_text input (by decide))
  | interpret =>
    obtain ⟨text, htext⟩ := hw.text "text" (by decide)
    obtain ⟨t, hstep, ht, -⟩ := Node.step_interpret env htext
    refine ⟨t, hstep, ?_⟩
    rw [ht]
    refine (hw.put (admits_text text (by decide))).put ⟨fun h => absurd h (by decide), fun _ => ?_⟩
    exact ⟨_, rfl, fun x hx => hlex text x hx⟩
  | parseAddress =>
    obtain ⟨url, hurl⟩ := hw.text "url" (by decide)
    obtain ⟨t, hstep, ht, -⟩ := Node.step_parseAddress env hurl
    refine ⟨t, hstep, ?_⟩
    rw [ht]
    exact hw.put (admits_text _ (by decide))
  | request =>
    obtain ⟨t, hstep, ht, -⟩ := Node.step_request env (w := w)
    refine ⟨t, hstep, ?_⟩
    rw [ht]
    exact (hw.put (admits_other _ (by decide))).put (admits_text _ (by decide))
  | extract =>
    obtain ⟨body, hbody⟩ := hw.text "response_body" (by decide)
    obtain ⟨t, hstep, ht, -⟩ := Node.step_extract env hbody
    refine ⟨t, hstep, ?_⟩
    rw [ht]
    exact hw.put (admits_text _ (by decide))
  | askAddress => exact absurd rfl hn
  | handleSuccess | handleError | showSuccess | showError | decide | act | finish =>
    exact absurd rfl hsays

/-- From a steady context the router names no intent or one that has a node. -/
lemma next_known {c : Record} (hc : Steady c) (env : Surroundings) (n : Node) :
    ∃ d, Router.robot.next n.intent c = .ok d ∧
      (stockEngine env .robot).Knows (.ofDatum d) := by
  have hknown (m : Node) : m.intent ∈ (stockEngine env .robot).intents :=
    (mem_intents_stockEngine env .robot).mpr ⟨m, rfl⟩
  cases n with
  | askAddress | receive => exact ⟨_, rfl, hknown .interpret⟩
  | interpret => exact ⟨_, rfl, hknown .decide⟩
  | act => exact ⟨_, rfl, hknown .finish⟩
  | decide =>
    obtain ⟨found, hfound, hnode⟩ := hc.found
    refine ⟨_, next_decide hfound, ?_⟩
    rw [ofDatum_decision]
    cases found with
    | none => exact hknown .finish
    | some x =>
      by_cases hplain : x = "" ∨ x = "INTENT_DECIDE"
      · rw [decision, if_pos hplain]
        exact hknown .finish
      · obtain ⟨m, rfl⟩ := hnode x rfl
        rw [decision, if_neg hplain]
        exact hknown m
  | parseAddress | request | handleSuccess | handleError | extract | showSuccess | showError
  | finish => exact ⟨_, rfl, trivial⟩

/-- The robot keeps its context steady, whatever a request gives. -/
lemma keeps_steady {env : Surroundings}
    (hlex : ∀ word intent, env.lexicon.ofWord? word = some intent → HasNode intent) :
    (stockEngine env .robot).Keeps fun w => Steady w.context := by
  intro intent node w found hw
  rw [lookup_stockEngine] at found
  obtain ⟨n, hn, rfl⟩ := Option.map_eq_some_iff.mp found
  obtain ⟨rfl, hask⟩ := Node.of_lookup hn
  obtain ⟨t, hstep, ht⟩ := step_steady hask hlex hw
  obtain ⟨d, hnext, hknown⟩ := next_known ht env n
  exact ⟨t, d, hstep, ht, hnext, hknown⟩

end Robot

/-! ### The lexicons -/

namespace Lexicon

def Within (lex : Lexicon) (known : String → Prop) : Prop := ∀ e ∈ lex.entries, known e.2

variable {known : String → Prop} {lex : Lexicon}

lemma mem_enterIn {word : Datum.Key} {intent : String} {entries : List (Datum.Key × String)}
    {e : Datum.Key × String} (h : e ∈ enterIn word intent entries) :
    e.2 = intent ∨ e ∈ entries := by
  induction entries with
  | nil => simp_all [enterIn]
  | cons f entries ih =>
    obtain ⟨w, i⟩ := f
    rw [enterIn] at h
    split at h
    · rcases List.mem_cons.mp h with rfl | h
      · exact .inl rfl
      · exact .inr (List.mem_cons_of_mem _ h)
    · rcases List.mem_cons.mp h with rfl | h
      · exact .inr List.mem_cons_self
      · exact (ih h).imp_right (List.mem_cons_of_mem _)

lemma Within.enterAll (h : lex.Within known) {intent : String} (hi : known intent)
    (ds : List Datum) : (lex.enterAll intent ds).1.Within known := by
  induction ds generalizing lex with
  | nil => exact h
  | cons d ds ih =>
    rw [Lexicon.enterAll]
    cases d.key? with
    | none => exact h
    | some word =>
      refine ih fun e he => ?_
      rcases mem_enterIn he with heq | he
      · exact heq ▸ hi
      · exact h e he

lemma Within.loadFields (h : lex.Within known) {fields : Record}
    (hfields : ∀ e ∈ fields, known e.1) : (lex.loadFields fields).1.Within known := by
  induction fields generalizing lex with
  | nil => exact h
  | cons e fields ih =>
    obtain ⟨intent, config⟩ := e
    have hrest : ∀ e ∈ fields, known e.1 := fun e he => hfields e (List.mem_cons_of_mem _ he)
    rw [Lexicon.loadFields]
    split
    · exact h
    · next words _ =>
      have hall := h.enterAll (hfields (intent, config) List.mem_cons_self) words
      split
      · next heq =>
        rw [heq] at hall
        exact ih hall hrest
      · next heq =>
        rw [heq] at hall
        exact hall

lemma Within.loadFrom (h : lex.Within known) {edition : Edition} {hasReader : Bool} {path : String}
    {entries : List (String × List String)}
    (hcontent : contentAt edition hasReader path = .ok (dataOf entries))
    (hentries : ∀ e ∈ entries, known e.1) :
    (lex.loadFrom edition hasReader path).1.Within known := by
  rw [Lexicon.loadFrom, hcontent]
  refine h.loadFields fun e he => ?_
  obtain ⟨f, hf, rfl⟩ := List.mem_map.mp he
  exact hentries f hf

lemma Within.loadPaths (h : lex.Within known) {edition : Edition} {hasReader : Bool}
    {paths : List String}
    (hpaths : ∀ path ∈ paths, ∃ entries, contentAt edition hasReader path = .ok (dataOf entries) ∧
      ∀ e ∈ entries, known e.1) : (lex.loadPaths edition hasReader paths).1.Within known := by
  induction paths generalizing lex with
  | nil => exact h
  | cons path paths ih =>
    obtain ⟨entries, hcontent, hentries⟩ := hpaths path List.mem_cons_self
    have hfrom := h.loadFrom hcontent hentries
    rw [Lexicon.loadPaths]
    split
    · next heq =>
      rw [heq] at hfrom
      exact ih hfrom fun path hpath => hpaths path (List.mem_cons_of_mem _ hpath)
    · next heq =>
      rw [heq] at hfrom
      exact hfrom

lemma Within.ofWord? (h : lex.Within known) {word intent : String}
    (hword : lex.ofWord? word = some intent) : known intent := by
  obtain ⟨l₁, l₂, heq, -⟩ := List.lookup_eq_some_iff.mp hword
  exact h (.text word, intent) (by simp [heq])

lemma hasNode_of_all {entries : List (String × List String)}
    (h : (entries.all fun e => Node.all.any fun n => n.intent == e.1) = true) :
    ∀ e ∈ entries, HasNode e.1 := by
  intro e he
  obtain ⟨n, -, hn⟩ := List.any_eq_true.mp (List.all_eq_true.mp h e he)
  exact ⟨n, by simpa using hn⟩

lemma hasNode_startPaths (edition : Edition) (hasReader : Bool) :
    ∀ path ∈ startPaths, ∃ entries, contentAt edition hasReader path = .ok (dataOf entries) ∧
      ∀ e ∈ entries, HasNode e.1 := by
  simp only [startPaths, List.mem_cons, List.not_mem_nil, or_false]
  rintro path (rfl | rfl | rfl) <;> cases edition <;> cases hasReader <;>
    exact ⟨_, rfl, hasNode_of_all (by decide)⟩

end Lexicon

/-! ### The flow of a program -/

inductive EndOf (p : Program Statement) : String → Prop
  | source {source target state : String} {direction : Direction}
      (h : .arrow source target direction state ∈ p.statements) : EndOf p source
  | target {source target state : String} {direction : Direction}
      (h : .arrow source target direction state ∈ p.statements) : EndOf p target

section

variable {lex : Lexicon} {p : Program Statement}

lemma presentIntent_ofWord? (hlex : lex.Within HasNode) (word : String) :
    presentIntent (lex.ofWord? word) = (lex.ofWord? word).toList := by
  cases h : lex.ofWord? word with
  | none => rfl
  | some intent =>
    obtain ⟨n, rfl⟩ := hlex.ofWord? h
    rw [presentIntent, if_neg (by cases n <;> decide), Option.toList_some]

/-- The flow holds the intents of the words at the ends of arrows. -/
lemma mem_flow_iff (hlex : lex.Within HasNode) {intent : String} :
    intent ∈ p.flow lex ↔ ∃ word, EndOf p word ∧ lex.ofWord? word = some intent := by
  rw [Program.flow, List.mem_flatMap]
  constructor
  · rintro ⟨t, ht, hmem⟩
    cases t with
    | arrow source target direction state =>
      rw [Statement.intents, presentIntent_ofWord? hlex, presentIntent_ofWord? hlex,
        List.mem_append, Option.mem_toList, Option.mem_toList] at hmem
      rcases hmem with h | h
      · exact ⟨source, .source ht, h⟩
      · exact ⟨target, .target ht, h⟩
    | line | block | blockEnd => exact absurd hmem List.not_mem_nil
  · rintro ⟨word, hend, hword⟩
    have hmem : intent ∈ presentIntent (lex.ofWord? word) := by
      rw [presentIntent_ofWord? hlex, hword]
      exact List.mem_singleton_self intent
    cases hend with
    | source h => exact ⟨_, h, List.mem_append_left _ hmem⟩
    | target h => exact ⟨_, h, List.mem_append_right _ hmem⟩

lemma flow_eq_nil_iff (hlex : lex.Within HasNode) :
    p.flow lex = [] ↔ ∀ word, EndOf p word → lex.ofWord? word = none := by
  rw [List.eq_nil_iff_forall_not_mem]
  constructor
  · intro h word hend
    rw [Option.eq_none_iff_forall_ne_some]
    exact fun intent hword => h intent ((mem_flow_iff hlex).mpr ⟨word, hend, hword⟩)
  · intro h intent hmem
    obtain ⟨word, hend, hword⟩ := (mem_flow_iff hlex).mp hmem
    simp [h word hend] at hword

lemma hasNode_of_mem_flow (hlex : lex.Within HasNode) {intent : String} (h : intent ∈ p.flow lex) :
    HasNode intent := by
  obtain ⟨word, -, hword⟩ := (mem_flow_iff hlex).mp h
  exact hlex.ofWord? hword

lemma ofDatum_of_hasNode {intent : String} (h : HasNode intent) :
    Next.ofDatum (.text intent) = .go intent := by
  obtain ⟨n, rfl⟩ := h
  rw [Next.ofDatum_text, Next.ofIntent, if_neg (by cases n <;> decide)]

end

/-! ### The command -/

namespace CommandLine

open Straight (warningText)

variable {s : Setting} {source : String} {flags : List String} {p : Program Statement}

def listed (s : Setting) (source : String) (flow : List String) : World :=
  ((warned s source).printLine "=== FLOW ===").printLine (Datum.ofWords flow).shown

def robot (s : Setting) (lex : Lexicon) : Engine World := stockEngine ⟨lex, s.http⟩ .robot

lemma runSource_flow (h : parse source = .ok p) (s : Setting) (lex : Lexicon) {r : Request}
    (hmode : r.mode = "flow") :
    runSource s lex r source { input := s.input } = runArrows s lex p (warned s source) := by
  have hpipeline : pipeline? r.mode p = some .flow := by simp [hmode, pipeline?]
  simp only [runSource, h, hpipeline, Straight.foldl_printLine, warned, warningText, World.print,
    String.empty_append]

lemma runArrows_nil {lex : Lexicon} (h : p.flow lex = []) (s : Setting) (source : String) :
    runArrows s lex p (warned s source) =
      ⟨showTree p ((listed s source []).printLine "No executable flow generated."), .exit 0⟩ := by
  simp only [runArrows, h, List.isEmpty_nil, if_true, listed]

/-- A flow is run from its first intent; a run that does not fail ends the command well. -/
lemma runArrows_cons {lex : Lexicon} {first : String} {rest : List String}
    (h : p.flow lex = first :: rest) (s : Setting) (source : String) {r : Run World}
    (hr : (robot s lex).run ((first :: rest).map .text) (listed s source (first :: rest)) = r)
    (hends : r.ending.fault? = none) :
    runArrows s lex p (warned s source) =
      ⟨showTree p ((r.ending.notice?.map r.state.printLine).getD r.state), .exit 0⟩ := by
  have hflow : runFlow ⟨lex, s.http⟩ .robot ((first :: rest).map .text)
      (listed s source (first :: rest)) =
        ((r.ending.notice?.map r.state.printLine).getD r.state, none) := by
    rw [← hends, ← hr, runFlow, robot]
  rw [listed] at hflow
  simp only [runArrows, h, List.isEmpty_cons, Bool.false_eq_true, if_false, hflow]

/-- The command runs the flow of a program: it executes its first intent at least, does not fail,
and shows the tree in the end. -/
structure RunsFlow (s : Setting) (lex : Lexicon) (source : String) (p : Program Statement)
    (r : Run World) (report : Report) : Prop where
  ran : (robot s lex).run ((p.flow lex).map .text) (listed s source (p.flow lex)) = r
  executed : r.executed ≠ []
  ended : r.ending.fault? = none
  reported :
    report = ⟨showTree p ((r.ending.notice?.map r.state.printLine).getD r.state), .exit 0⟩

section

variable {lex : Lexicon}

lemma robot_keeps (hlex : lex.Within HasNode) (s : Setting) :
    (robot s lex).Keeps fun w => Robot.Steady w.context :=
  Robot.keeps_steady fun _ _ => hlex.ofWord?

lemma mem_intents_robot (s : Setting) {intent : String} (h : HasNode intent) :
    intent ∈ (robot s lex).intents :=
  (mem_intents_stockEngine _ _).mpr h

lemma runArrows_runsFlow (hlex : lex.Within HasNode) (hflow : p.flow lex ≠ []) (s : Setting)
    (source : String) : ∃ r, RunsFlow s lex source p r (runArrows s lex p (warned s source)) := by
  obtain ⟨first, rest, hcons⟩ := List.exists_cons_of_ne_nil hflow
  have hfirst : HasNode first := hasNode_of_mem_flow hlex (hcons ▸ List.mem_cons_self)
  have hknown : first ∈ (robot s lex).intents := mem_intents_robot s hfirst
  have hkeeps := robot_keeps hlex s
  have hrun (w : World) : (robot s lex).run ((first :: rest).map .text) w =
      (robot s lex).runFrom [] w (.go first) := by
    rw [List.map_cons, Engine.run, ofDatum_of_hasNode hfirst]
  refine ⟨_, rfl, ?_, ?_, runArrows_cons hcons s source (hcons ▸ rfl) ?_⟩ <;> rw [hcons, hrun]
  · exact hkeeps.executed_ne_nil hknown Robot.steady_nil
  · exact hkeeps.runFrom [] _ _ Robot.steady_nil hknown
  · exact hkeeps.runFrom [] _ _ Robot.steady_nil hknown

end

/-- **Flows end well**: on a source that can be read, the command runs the flow and ends well,
whatever a request gives. Every intent of the flow has a node, and so has every intent that a run
comes to from there. No node is run exactly if the lexicons know no word at an end of an arrow. -/
theorem run_flow_ends (s : Setting) (hs : s.lexicon.Within HasNode) (path : String)
    (flags : List String) (hmode : (Request.ofArgs flags).mode = "flow") (source : String)
    (p : Program Statement) (hp : parse source = .ok p) :
    ∃ lex, s.lexicon.loadPaths s.edition s.hasReader Lexicon.startPaths = (lex, none) ∧
      (run s (.ok source) (path :: flags)).stop = .exit 0 ∧
      (∀ intent ∈ p.flow lex, intent ∈ (robot s lex).intents ∧
        ∀ is w due, (robot s lex).Leads (listed s source (p.flow lex)) (.go intent) is w due →
          (robot s lex).Knows due) ∧
      ((∀ word, EndOf p word → lex.ofWord? word = none) →
        run s (.ok source) (path :: flags) =
          ⟨showTree p ((listed s source []).printLine "No executable flow generated."), .exit 0⟩) ∧
      ((∃ word, EndOf p word ∧ lex.ofWord? word ≠ none) →
        ∃ r, RunsFlow s lex source p r (run s (.ok source) (path :: flags))) := by
  obtain ⟨lex, hload, hrun⟩ := run_source s path flags source
  have hlex : lex.Within HasNode := by
    have hwithin := hs.loadPaths (Lexicon.hasNode_startPaths s.edition s.hasReader)
    rwa [hload] at hwithin
  rw [runSource_flow hp s lex hmode] at hrun
  rw [hrun]
  refine ⟨lex, hload, ?_, fun intent hmem => ?_, fun hnone => ?_, ?_⟩
  · -- with and without a flow the command exits normally
    by_cases hflow : p.flow lex = []
    · rw [runArrows_nil hflow]
    · obtain ⟨r, hr⟩ := runArrows_runsFlow hlex hflow s source
      rw [hr.reported]
  · have hknown : intent ∈ (robot s lex).intents :=
      mem_intents_robot s (hasNode_of_mem_flow hlex hmem)
    exact ⟨hknown, fun is w due hleads =>
      ((robot_keeps hlex s).leads hleads Robot.steady_nil hknown).2⟩
  · exact runArrows_nil ((flow_eq_nil_iff hlex).mpr hnone) s source
  · rintro ⟨word, hend, hword⟩
    refine runArrows_runsFlow hlex (fun hnil => hword ?_) s source
    exact (flow_eq_nil_iff hlex).mp hnil word hend

def failingCall : String := "响应体 -> 调用接口\n"

theorem failingCall_ends :
    Lexicon.Within {} HasNode ∧ (Request.ofArgs ["--mode=flow"]).mode = "flow" ∧
      parse failingCall = .ok ⟨[[[.arrow "响应体" "调用接口" .right "~"]]]⟩ ∧
      (run { edition := .bundled, hasReader := false, http := .failure "no route" }
        (.ok failingCall) ["call.cat", "--mode=flow"]).stop = .exit 0 := by
  have hempty : Lexicon.Within {} HasNode := fun e he => absurd he List.not_mem_nil
  have hmode : (Request.ofArgs ["--mode=flow"]).mode = "flow" := by decide +kernel
  have hp : parse failingCall = .ok ⟨[[[.arrow "响应体" "调用接口" .right "~"]]]⟩ := by
    decide +kernel
  obtain ⟨-, -, hstop, -⟩ := run_flow_ends
    { edition := .bundled, hasReader := false, http := .failure "no route" } hempty "call.cat" _
    hmode failingCall _ hp
  exact ⟨hempty, hmode, hp, hstop⟩

end CommandLine

end Flowline
