import Mathlib.Tactic.Lemma
import Flowline.Proofs.RobotRuns
import Flowline.Proofs.Words

/-!
Running the robot again.

The nodes enter what they find into the context from which they read, so a second run begins with
what the first has left. It makes no difference: a node that looks again after it has entered its
fields would enter the same, and after the decision at most one node enters anything. So in the
context that a run has left every node of the run is settled, and a second run goes the same way and
leaves that context as it is.
-/

namespace Flowline

lemma stripped_stripped (s : String) : stripped (stripped s) = stripped s := by
  simp only [stripped, String.toList_ofList, trim_trim]

/-! ### Fields that are texts -/

namespace Record

variable {c fields : Record}

def textD (c : Record) (field : String) : String :=
  ((getD c field (.text "")).text?).getD ""

def textFields : List String := ["input", "url", "response_body"]

/-- Every name stands for one field, and what is read as a text is one or is absent. -/
structure Readable (c : Record) : Prop where
  distinct : Distinct c
  text : ∀ field ∈ textFields, ∃ s, getD c field (.text "") = .text s

lemma Readable.getD_eq (h : Readable c) (field : String) (hfield : field ∈ textFields) :
    getD c field (.text "") = .text (textD c field) := by
  obtain ⟨s, hs⟩ := h.text field hfield
  rw [textD, hs]
  rfl

lemma Readable.put (h : Readable c) {field : String} {v : Datum}
    (hv : field ∈ textFields → ∃ s, v = .text s) : Readable (Record.put c field v) := by
  refine ⟨h.distinct.put field v, fun name hname => ?_⟩
  rw [getD_put]
  split
  · next heq => exact hv (heq ▸ hname)
  · exact h.text name hname

lemma Readable.update (h : Readable c)
    (hfields : ∀ e ∈ fields, e.1 ∈ textFields → ∃ s, e.2 = .text s) :
    Readable (Record.update c fields) := by
  induction fields generalizing c with
  | nil => exact h
  | cons e fields ih =>
    have hput : Readable (Record.put c e.1 e.2) := h.put (hfields e List.mem_cons_self)
    exact ih hput fun f hf => hfields f (List.mem_cons_of_mem e hf)

end Record

/-! ### The nodes that may follow the decision -/

namespace Node

open Record (Readable textFields textD)

variable (env : Surroundings) {w t : World} {n : Node} {c : Record}

def enters (c : Record) : Node → Record
  | parseAddress => [("url", .text (stripped (textD c "url")))]
  | request => [("status_code", .int env.http.status), ("response_body", .text env.http.body)]
  | extract => [("snippet", .text (String.ofList ((textD c "response_body").toList.take 120)))]
  | _ => []

def opening : List Node := [askAddress, receive, interpret]

lemma step_enters (hn : n ∉ opening) (hw : Readable w.context) :
    ∃ t, n.step env w = (t, none) ∧
      t.context = Record.update w.context (n.enters env w.context) := by
  by_cases hsays : n.onlySays = true
  · -- what is only said enters no field
    obtain ⟨t, hstep, ht, -⟩ := step_of_onlySays env hsays hw.distinct
    have hnothing : n.enters env w.context = [] := by
      cases n <;> first | rfl | cases hsays
    refine ⟨t, hstep, ?_⟩
    rw [ht, hnothing]
    rfl
  cases n with
  | parseAddress =>
    have hurl := hw.getD_eq "url" (by decide)
    obtain ⟨t, hstep, ht, -⟩ := step_parseAddress env hurl
    exact ⟨t, hstep, ht⟩
  | request =>
    obtain ⟨t, hstep, ht, -⟩ := step_request env (w := w)
    exact ⟨t, hstep, ht⟩
  | extract =>
    have hbody := hw.getD_eq "response_body" (by decide)
    obtain ⟨t, hstep, ht, -⟩ := step_extract env hbody
    exact ⟨t, hstep, ht⟩
  | askAddress | receive | interpret => exact absurd hn (by decide)
  | handleSuccess | handleError | showSuccess | showError | decide | act | finish =>
    exact absurd rfl hsays

lemma distinct_enters (c : Record) (n : Node) :
    Record.Distinct (n.enters env c) := by
  cases n <;> simp [enters, Record.Distinct]

lemma readable_enters (hc : Readable c) (n : Node) :
    Readable (Record.update c (n.enters env c)) := by
  refine hc.update fun e he hfield => ?_
  cases n <;> simp only [Node.enters, List.mem_cons, List.not_mem_nil, or_false] at he
  case parseAddress =>
    subst he
    exact ⟨_, rfl⟩
  case extract =>
    subst he
    exact ⟨_, rfl⟩
  case request =>
    rcases he with rfl | rfl
    · simp [textFields] at hfield
    · exact ⟨_, rfl⟩

/-- A node that looks again after it has entered its fields would enter the same. -/
lemma enters_update (c : Record) (n : Node) :
    n.enters env (Record.update c (n.enters env c)) = n.enters env c := by
  cases n with
  | parseAddress =>
    have hurl : textD (Record.put c "url" (.text (stripped (textD c "url")))) "url" =
        stripped (textD c "url") := by
      rw [textD, Record.getD_put, if_pos rfl]
      rfl
    simp only [enters, Record.update, List.foldl_cons, List.foldl_nil, hurl, stripped_stripped]
  | extract =>
    have hbody (d : Datum) :
        textD (Record.put c "snippet" d) "response_body" = textD c "response_body" := by
      rw [textD, Record.getD_put, if_neg (by decide), textD]
    simp only [enters, Record.update, List.foldl_cons, List.foldl_nil, hbody]
  | _ => rfl

/-- The node returns and leaves the context as it is. -/
def Settled (n : Node) (c : Record) : Prop :=
  ∀ w : World, w.context = c → ∃ t, n.step env w = (t, none) ∧ t.context = c

lemma settled_of_update (hn : n ∉ opening) (hc : Readable c)
    (h : Record.update c (n.enters env c) = c) : n.Settled env c := by
  rintro w rfl
  obtain ⟨t, hstep, ht⟩ := step_enters env hn hc
  exact ⟨t, hstep, ht.trans h⟩

lemma settled_of_step (hn : n ∉ opening) (hw : Readable w.context)
    (h : n.step env w = (t, none)) : Readable t.context ∧ n.Settled env t.context := by
  obtain ⟨t', hstep, ht⟩ := step_enters env hn hw
  obtain ⟨rfl, -⟩ := Prod.mk.inj (hstep.symm.trans h)
  have hreadable : Readable t'.context := by
    rw [ht]
    exact readable_enters env hw n
  refine ⟨hreadable, settled_of_update env hn hreadable ?_⟩
  rw [ht, enters_update, Record.update_update (distinct_enters env w.context n)]

end Node

/-! ### The second run -/

namespace Robot

open Record (Readable)

variable {env : Surroundings} {w t v : World} {found : Option String} {due : Next}

/-- A path through settled nodes leaves the context as it is. -/
lemma context_of_settled {router : Router} {c : Record} {next : Next} {is : List String}
    (h : (stockEngine env router).Leads w next is t due) (hw : w.context = c)
    (hsettled : ∀ n : Node, n ≠ .askAddress → n.intent ∈ is → n.Settled env c) :
    t.context = c := by
  induction h with
  | here => exact hw
  | @turn s t u intent node d is due served ran named onward ih =>
    rw [lookup_stockEngine] at served
    obtain ⟨n, hn, rfl⟩ := Option.map_eq_some_iff.mp served
    obtain ⟨rfl, hask⟩ := Node.of_lookup hn
    obtain ⟨t', ran', ht⟩ := hsettled n hask List.mem_cons_self s hw
    obtain ⟨rfl, -⟩ := Prod.mk.inj (ran'.symm.trans ran)
    exact ih ht fun m hm hmem => hsettled m hm (List.mem_cons_of_mem _ hmem)

/-- After the decision come nodes that enter nothing, or a single node of the client. -/
lemma tail_cases (found : Option String) :
    (tail found).1 ⊆ ["INTENT_ACTION", "INTENT_FEEDBACK"] ∨
      ∃ intent ∈ Node.clientIntents, (tail found).1 = [intent] := by
  cases found with
  | none => exact .inl (by simp [tail])
  | some x =>
    simp only [tail]
    split_ifs with hplain haction hback hclient
    · exact .inl (by simp)
    · exact .inl (by simp)
    · exact .inl (by simp)
    · exact .inr ⟨x, hclient, rfl⟩
    · exact .inl (by simp)

lemma settled_tail (hw : Readable w.context)
    (h : (stockEngine env .robot).Leads w (.go (decision found)) (tail found).1 t due) :
    Readable t.context ∧
      ∀ n : Node, n ≠ .askAddress → n.intent ∈ (tail found).1 → n.Settled env t.context := by
  rcases tail_cases found with hsays | ⟨intent, hclient, htail⟩
  · -- the robot's own nodes change nothing
    have hsettled (n : Node) (_ : n ≠ .askAddress) (hmem : n.intent ∈ (tail found).1) :
        n.Settled env w.context := by
      have hn := hsays hmem
      cases n with
      | act | finish => exact Node.settled_of_update env (by decide) hw rfl
      | _ => exact absurd hn (by decide)
    rw [context_of_settled h rfl hsettled]
    exact ⟨hw, hsettled⟩
  · -- one node of the client, which has settled after its first run
    rw [htail] at h ⊢
    obtain ⟨node, served, ran⟩ := h.ran_of_singleton
    rw [lookup_stockEngine] at served
    obtain ⟨n, hn, rfl⟩ := Option.map_eq_some_iff.mp served
    obtain ⟨rfl, -⟩ := Node.of_lookup hn
    have hopening : n ∉ Node.opening := by
      cases n <;> first | decide | exact absurd hclient (by decide)
    obtain ⟨hreadable, hsettled⟩ := Node.settled_of_step env hopening hw ran
    refine ⟨hreadable, fun m hm hmem => ?_⟩
    have hserves := Node.lookup_intent hm
    rw [List.mem_singleton.mp hmem] at hserves
    obtain rfl := Option.some.inj (hn.symm.trans hserves)
    exact hsettled

lemma decidedContext_of_lookup {c : Record} {input : String}
    (htext : c.lookup "text" = some (.text input))
    (hparsed : c.lookup "parsed_text" = some (.text input))
    (hfound : c.lookup "resolved_intent" = some (.ofFound found)) :
    decidedContext input found c = c := by
  rw [decidedContext, Record.put_of_lookup htext, Record.put_of_lookup hparsed,
    Record.put_of_lookup hfound]

lemma run_parts (env : Surroundings) (hw : Readable w.context) {input : String}
    (hinput : w.getD "input" (.text "") = .text input)
    (hfound : env.lexicon.ofWord? input = found) :
    ∃ u t due, u.context = decidedContext input found w.context ∧ Readable u.context ∧
      (stockEngine env .robot).Leads u (.go (decision found)) (tail found).1 t due ∧
      (∀ field ∉ Node.clientFields, t.get? field = u.get? field) ∧
      (stockEngine env .robot).run [.text "INTENT_INPUT"] w = ⟨t, path found, (tail found).2⟩ := by
  obtain ⟨u, hhead, hu⟩ := leads_decision env hw.distinct hinput
  rw [hfound] at hhead hu
  have hreadable : Readable u.context := by
    rw [hu, decidedContext]
    exact ((hw.put fun h => absurd h (by decide)).put fun h => absurd h (by decide)).put
      fun h => absurd h (by decide)
  obtain ⟨address, haddress⟩ := hreadable.text "url" (by decide)
  obtain ⟨body, hbody⟩ := hreadable.text "response_body" (by decide)
  obtain ⟨t, due, htail, hends, hnodup, hframe⟩ :=
    leads_tail env hreadable.distinct haddress hbody found
  exact ⟨u, t, due, hu, hreadable, htail, fun field hfield => hframe field fun _ _ _ => hfield,
    Engine.run_of_leads (hhead.trans htail) hnodup hends []⟩

lemma ending_tail (found : Option String) :
    (tail found).2 = .finished ∨ (tail found).2 = .looped ∨
      ∃ intent, (tail found).2 = .failed (.noCapability intent) := by
  cases found with
  | none => exact .inl rfl
  | some x =>
    simp only [tail]
    split_ifs
    · exact .inl rfl
    · exact .inl rfl
    · exact .inr (.inl rfl)
    · exact .inl rfl
    · exact .inr (.inr ⟨x, rfl⟩)

/-- **Running the robot again changes nothing**: in any world that has the context left by a first
run, a second run executes the same intents, ends in the same way and leaves the context as it
is. -/
theorem run_again (env : Surroundings) (w : World) (hw : Readable w.context) (v : World)
    (hv : v.context = (runFlow env .robot [.text "INTENT_INPUT"] w).1.context) :
    ∃ s t is ending,
      (stockEngine env .robot).run [.text "INTENT_INPUT"] w = ⟨s, is, ending⟩ ∧
      runFlow env .robot [.text "INTENT_INPUT"] w =
        ((ending.notice?.map s.printLine).getD s, ending.fault?) ∧
      (stockEngine env .robot).run [.text "INTENT_INPUT"] v = ⟨t, is, ending⟩ ∧
      runFlow env .robot [.text "INTENT_INPUT"] v =
        ((ending.notice?.map t.printLine).getD t, ending.fault?) ∧
      s.context = v.context ∧ t.context = v.context ∧
      (runFlow env .robot [.text "INTENT_INPUT"] v).1.context = v.context ∧
      (ending = .finished ∨ ending = .looped ∨
        ∃ intent, ending = .failed (.noCapability intent)) := by
  obtain ⟨input, hinput⟩ := hw.text "input" (by decide)
  obtain ⟨u, s, due, hu, hureadable, htail, hframe, hrun⟩ := run_parts env hw hinput rfl
  obtain ⟨hreadable, hsettled⟩ := settled_tail hureadable htail
  generalize hfound : env.lexicon.ofWord? input = found at *
  have hlookup (field : String) (hfield : field ∉ Node.clientFields) :
      s.context.lookup field = (decidedContext input found w.context).lookup field := by
    rw [← hu]
    exact hframe field hfield
  -- the notice at the end of a run is printed, and the context stays
  have hnotice (r : World) (ending : Ending) :
      ((ending.notice?.map r.printLine).getD r).context = r.context := by
    cases ending <;> rfl
  have hflow : runFlow env .robot [.text "INTENT_INPUT"] w =
      (((tail found).2.notice?.map s.printLine).getD s, (tail found).2.fault?) := by
    rw [runFlow, hrun]
  rw [hflow, hnotice] at hv
  -- the second run finds the same input
  have hinput' : v.getD "input" (.text "") = .text input := by
    have hkept : v.context.lookup "input" = w.context.lookup "input" := by
      rw [hv, hlookup "input" (by decide), lookup_decidedContext]
      simp
    rw [← hinput]
    simp only [World.getD, Record.getD, hkept]
  obtain ⟨u', t, due', hu', -, htail', -, hrun'⟩ :=
    run_parts env (w := v) (hv ▸ hreadable) hinput' hfound
  have hsame : u'.context = s.context := by
    rw [hu', hv]
    exact decidedContext_of_lookup
      (by simp [hlookup "text" (by decide), lookup_decidedContext])
      (by simp [hlookup "parsed_text" (by decide), lookup_decidedContext])
      (by simp [hlookup "resolved_intent" (by decide), lookup_decidedContext])
  have ht : t.context = s.context := context_of_settled htail' hsame hsettled
  have hflow' : runFlow env .robot [.text "INTENT_INPUT"] v =
      (((tail found).2.notice?.map t.printLine).getD t, (tail found).2.fault?) := by
    rw [runFlow, hrun']
  refine ⟨s, t, path found, (tail found).2, hrun, hflow, hrun', hflow', hv.symm, ht.trans hv.symm,
    ?_, ending_tail found⟩
  rw [hflow', hnotice, ht, hv]

def addressLexicon : Lexicon := ⟨[(.text "解析", "INTENT_PARSE_URL")]⟩

def spacedContext : Record := [("url", .text " http://u "), ("input", .text "解析")]

def strippedContext : Record :=
  [("url", .text "http://u"), ("input", .text "解析"), ("text", .text "解析"),
    ("parsed_text", .text "解析"), ("resolved_intent", .text "INTENT_PARSE_URL")]

lemma leads_spacedContext :
    ∃ t, (stockEngine { lexicon := addressLexicon } .robot).Leads { context := spacedContext }
        (.go "INTENT_INPUT")
        ["INTENT_INPUT", "INTENT_PARSE", "INTENT_DECIDE", "INTENT_PARSE_URL"] t .stop ∧
      t.context = strippedContext :=
  ⟨_, leads_node .receive (by decide) rfl rfl <|
    leads_node .interpret (by decide) rfl rfl <|
      leads_node .decide (by decide) rfl rfl <|
        leads_node .parseAddress (by decide) rfl rfl (.here _ _), rfl⟩

/-- The first run takes the blanks off the address, the second finds none. -/
theorem spacedContext_again :
    Readable spacedContext ∧
      (runFlow { lexicon := addressLexicon } .robot [.text "INTENT_INPUT"]
        { context := spacedContext }).1.context = strippedContext ∧
      (runFlow { lexicon := addressLexicon } .robot [.text "INTENT_INPUT"]
        { context := strippedContext }).1.context = strippedContext ∧
      ∃ t, (stockEngine { lexicon := addressLexicon } .robot).run [.text "INTENT_INPUT"]
        { context := strippedContext } =
          ⟨t, ["INTENT_INPUT", "INTENT_PARSE", "INTENT_DECIDE", "INTENT_PARSE_URL"],
            .finished⟩ := by
  have hreadable : Readable spacedContext := by
    refine ⟨by simp [Record.Distinct, spacedContext], fun field hfield => ?_⟩
    simp only [Record.textFields, List.mem_cons, List.not_mem_nil, or_false] at hfield
    rcases hfield with rfl | rfl | rfl <;> exact ⟨_, rfl⟩
  obtain ⟨r, hleads, hr⟩ := leads_spacedContext
  have hfirst : (stockEngine { lexicon := addressLexicon } .robot).run [.text "INTENT_INPUT"]
      { context := spacedContext } =
        ⟨r, ["INTENT_INPUT", "INTENT_PARSE", "INTENT_DECIDE", "INTENT_PARSE_URL"], .finished⟩ :=
    Engine.run_of_leads hleads (by decide) .missing []
  have hleft : (runFlow { lexicon := addressLexicon } .robot [.text "INTENT_INPUT"]
      { context := spacedContext }).1.context = strippedContext := by
    rw [runFlow, hfirst]
    exact hr
  obtain ⟨s, t, is, ending, hrun, -, hagain, -, -, -, hkept, -⟩ :=
    run_again { lexicon := addressLexicon } { context := spacedContext } hreadable
      { context := strippedContext } hleft.symm
  obtain ⟨-, rfl, rfl⟩ := Run.mk.inj (hfirst.symm.trans hrun)
  exact ⟨hreadable, hleft, hkept, t, hagain⟩

end Robot

end Flowline
