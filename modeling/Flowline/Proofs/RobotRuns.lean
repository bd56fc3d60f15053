import Mathlib.Tactic.Lemma
import Flowline.Proofs.NodeSteps

/-!
Runs of the robot.

The robot receives a text, looks its intent up and comes to a decision; up to there every run is
the same. What follows is settled by the intent that was found, since the lookup enters it, or that
there is none, before the router asks for it.
-/

namespace Flowline.Robot

/-- What the robot executes after its decision, and how its run ends, by the intent that was
found. -/
def tail : Option String → List String × Ending
  | none => (["INTENT_FEEDBACK"], .finished)
  | some found =>
    if found ∈ ["", "INTENT_DECIDE", "INTENT_FEEDBACK"] then (["INTENT_FEEDBACK"], .finished)
    else if found = "INTENT_ACTION" then (["INTENT_ACTION", "INTENT_FEEDBACK"], .finished)
    else if found ∈ ["INTENT_INPUT", "INTENT_PARSE"] then ([], .looped)
    else if found ∈ Node.clientIntents then ([found], .finished)
    else ([], .failed (.noCapability found))

def path (found : Option String) : List String :=
  ["INTENT_INPUT", "INTENT_PARSE", "INTENT_DECIDE"] ++ (tail found).1

def decision : Option String → String
  | none => "INTENT_FEEDBACK"
  | some found =>
    if found = "" ∨ found = "INTENT_DECIDE" then "INTENT_FEEDBACK" else found

def decidedContext (input : String) (found : Option String) (c : Record) : Record :=
  Record.put (Record.put (Record.put c "text" (.text input)) "parsed_text" (.text input))
    "resolved_intent" (.ofFound found)

lemma lookup_decidedContext (input : String) (found : Option String) (c : Record) (field : String) :
    (decidedContext input found c).lookup field =
      if field = "resolved_intent" then some (.ofFound found)
      else if field = "parsed_text" then some (.text input)
      else if field = "text" then some (.text input)
      else c.lookup field := by
  simp only [decidedContext, Record.lookup_put]

lemma next_decide {found : Option String} {c : Record}
    (hc : Record.getD c "resolved_intent" .null = .ofFound found) :
    Router.robot.next "INTENT_DECIDE" c = .ok (.text (decision found)) := by
  cases found with
  | none => simp [Router.next, hc, Datum.ofFound, Datum.truthy, decision]
  | some found =>
    by_cases hempty : found = ""
    · simp [Router.next, hc, hempty, Datum.ofFound, Datum.truthy, decision]
    · by_cases hdecide : found = "INTENT_DECIDE" <;>
        simp [Router.next, hc, hempty, hdecide, Datum.ofFound, Datum.truthy, Datum.text?, decision]

lemma ofDatum_decision (found : Option String) :
    Next.ofDatum (.text (decision found)) = .go (decision found) := by
  have hne : decision found ≠ "" := by
    cases found with
    | none => decide
    | some found => by_cases h : found = "" ∨ found = "INTENT_DECIDE" <;> simp_all [decision]
  rw [Next.ofDatum_text, Next.ofIntent, if_neg hne]

lemma decision_of_mem {x : String} (h : x ∈ ["", "INTENT_DECIDE", "INTENT_FEEDBACK"]) :
    decision (some x) = "INTENT_FEEDBACK" := by
  simp only [List.mem_cons, List.not_mem_nil, or_false] at h
  rcases h with rfl | rfl | rfl <;> rfl

lemma decision_of_notMem {x : String} (h : x ∉ ["", "INTENT_DECIDE", "INTENT_FEEDBACK"]) :
    decision (some x) = x := by
  simp only [List.mem_cons, not_or] at h
  simp [decision, h.1, h.2.1]

/-- An intent that the tail does not provide for has no node. -/
lemma notMem_intents (env : Surroundings) {x : String}
    (hplain : x ∉ ["", "INTENT_DECIDE", "INTENT_FEEDBACK"]) (haction : x ≠ "INTENT_ACTION")
    (hback : x ∉ ["INTENT_INPUT", "INTENT_PARSE"]) (hclient : x ∉ Node.clientIntents) :
    x ∉ (stockEngine env .robot).intents := by
  rw [mem_intents_stockEngine]
  rintro ⟨n, rfl⟩
  cases n with
  | decide | finish => exact hplain (by decide)
  | act => exact haction rfl
  | askAddress | receive | interpret => exact hback (by decide)
  | _ => exact hclient (by decide)

variable {w : World}

/-! ### Up to the decision -/

lemma leads_decision (env : Surroundings) (hw : Record.Distinct w.context) {input : String}
    (hinput : w.getD "input" (.text "") = .text input) :
    ∃ t, (stockEngine env .robot).Leads w (.go "INTENT_INPUT")
        ["INTENT_INPUT", "INTENT_PARSE", "INTENT_DECIDE"] t
        (.go (decision (env.lexicon.ofWord? input))) ∧
      t.context = decidedContext input (env.lexicon.ofWord? input) w.context := by
  obtain ⟨u, hreceive, hu, -⟩ := Node.step_receive env (w := w)
  have htext : u.getD "text" (.text "") = .text input := by
    rw [World.getD, hu, Record.getD_put, if_pos rfl, hinput]
  obtain ⟨v, hinterpret, hv, -⟩ := Node.step_interpret env htext
  rw [hu, hinput] at hv
  have hdistinct : Record.Distinct v.context := by
    rw [hv]
    exact ((hw.put _ _).put _ _).put _ _
  obtain ⟨t, hdecide, ht, -⟩ := Node.step_of_onlySays env (n := .decide) rfl hdistinct
  have hfound : Record.getD t.context "resolved_intent" .null =
      .ofFound (env.lexicon.ofWord? input) := by
    rw [ht, hv, Record.getD_put, if_pos rfl]
  refine ⟨t, leads_node .receive (by decide) hreceive rfl <|
    leads_node .interpret (by decide) hinterpret rfl <|
      leads_node .decide (by decide) hdecide (next_decide hfound) ?_, ?_⟩
  · rw [ofDatum_decision]
    exact .here _ _
  · rw [ht, hv, decidedContext]

/-! ### After the decision -/

lemma leads_feedback (env : Surroundings) (hw : Record.Distinct w.context) :
    ∃ t, (stockEngine env .robot).Leads w (.go "INTENT_FEEDBACK") ["INTENT_FEEDBACK"] t .stop ∧
      t.context = w.context := by
  obtain ⟨t, hfinish, ht, -⟩ := Node.step_of_onlySays env (n := .finish) rfl hw
  exact ⟨t, leads_node .finish (by decide) hfinish rfl (.here _ _), ht⟩

lemma leads_action (env : Surroundings) (hw : Record.Distinct w.context) :
    ∃ t, (stockEngine env .robot).Leads w (.go "INTENT_ACTION")
        ["INTENT_ACTION", "INTENT_FEEDBACK"] t .stop ∧
      t.context = w.context := by
  obtain ⟨v, hact, hv, -⟩ := Node.step_of_onlySays env (n := .act) rfl hw
  obtain ⟨t, hleads, ht⟩ := leads_feedback env (w := v) (hv ▸ hw)
  exact ⟨t, leads_node .act (by decide) hact rfl hleads, ht.trans hv⟩

lemma leads_client (env : Surroundings) (hw : Record.Distinct w.context)
    {address body found : String} (haddress : w.getD "url" (.text "") = .text address)
    (hbody : w.getD "response_body" (.text "") = .text body) (hfound : found ∈ Node.clientIntents) :
    ∃ t, (stockEngine env .robot).Leads w (.go found) [found] t .stop ∧
      ∀ field ∉ Node.clientFields, t.get? field = w.get? field := by
  have hserved : ∀ x ∈ Node.clientIntents, ∃ n ∈ Node.all, n.intent = x := by decide
  obtain ⟨n, -, rfl⟩ := hserved found hfound
  have hn : n ≠ .askAddress := by
    rintro rfl
    exact absurd hfound (by decide)
  obtain ⟨t, hstep, hframe⟩ := Node.step_of_client env hfound hw haddress hbody
  have hnext : Router.robot.next n.intent t.context = .ok .null := by
    cases n <;> first | rfl | exact absurd hfound (by decide)
  exact ⟨t, leads_node n hn hstep hnext (.here _ _), hframe⟩

/-- After the decision the robot goes through its tail and ends as the tail says. -/
lemma leads_tail (env : Surroundings) (hw : Record.Distinct w.context) {address body : String}
    (haddress : w.getD "url" (.text "") = .text address)
    (hbody : w.getD "response_body" (.text "") = .text body) (found : Option String) :
    ∃ t due, (stockEngine env .robot).Leads w (.go (decision found)) (tail found).1 t due ∧
      (stockEngine env .robot).Concludes (path found) due (tail found).2 ∧
      (path found).Nodup ∧
      ∀ field, (∀ x ∈ found, x ∈ Node.clientIntents → field ∉ Node.clientFields) →
        t.get? field = w.get? field := by
  cases found with
  | none =>
    obtain ⟨t, hleads, ht⟩ := leads_feedback env hw
    exact ⟨t, .stop, hleads, .missing, by decide, fun field _ => congrArg (·.lookup field) ht⟩
  | some x =>
    by_cases hplain : x ∈ ["", "INTENT_DECIDE", "INTENT_FEEDBACK"]
    · -- nothing to decide, or the answer at once
      obtain ⟨t, hleads, ht⟩ := leads_feedback env hw
      rw [decision_of_mem hplain, path, tail, if_pos hplain]
      exact ⟨t, .stop, hleads, .missing, by decide, fun field _ => congrArg (·.lookup field) ht⟩
    rw [decision_of_notMem hplain, path, tail, if_neg hplain]
    by_cases haction : x = "INTENT_ACTION"
    · obtain ⟨t, hleads, ht⟩ := leads_action env hw
      rw [if_pos haction, haction]
      exact ⟨t, .stop, hleads, .missing, by decide, fun field _ => congrArg (·.lookup field) ht⟩
    rw [if_neg haction]
    by_cases hback : x ∈ ["INTENT_INPUT", "INTENT_PARSE"]
    · -- the way back has been gone already
      have hagain : x ∈ ["INTENT_INPUT", "INTENT_PARSE", "INTENT_DECIDE"] ++ [] :=
        List.mem_append_left _ (List.mem_append_left ["INTENT_DECIDE"] hback)
      rw [if_pos hback]
      exact ⟨w, .go x, .here _ _, .again hagain, by decide, fun field _ => rfl⟩
    rw [if_neg hback]
    by_cases hclient : x ∈ Node.clientIntents
    · obtain ⟨t, hleads, hframe⟩ := leads_client env hw haddress hbody hclient
      have hnodup : ∀ x ∈ Node.clientIntents,
          (["INTENT_INPUT", "INTENT_PARSE", "INTENT_DECIDE"] ++ [x]).Nodup := by decide
      rw [if_pos hclient]
      exact ⟨t, .stop, hleads, .missing, hnodup x hclient,
        fun field hfield => hframe field (hfield x rfl hclient)⟩
    rw [if_neg hclient]
    exact ⟨w, .go x, .here _ _, .unknown (notMem_intents env hplain haction hback hclient),
      by simp, fun field _ => rfl⟩

/-- **What the robot does**: its run begins in the same way for every input and goes on by the
intent of the input, whatever the context held before. In the end the input and its intent are
noted, and nothing else has changed, except that a node of the client may have entered its
fields. -/
theorem run_follows_found (env : Surroundings) (w : World)
    (hw : Record.Distinct w.context) (input address body : String)
    (hinput : w.getD "input" (.text "") = .text input)
    (haddress : w.getD "url" (.text "") = .text address)
    (hbody : w.getD "response_body" (.text "") = .text body) (rest : List Datum)
    (found : Option String) (hfound : env.lexicon.ofWord? input = found) :
    ∃ t, (stockEngine env .robot).run (.text "INTENT_INPUT" :: rest) w =
        ⟨t, path found, (tail found).2⟩ ∧
      runFlow env .robot (.text "INTENT_INPUT" :: rest) w =
        (((tail found).2.notice?.map t.printLine).getD t, (tail found).2.fault?) ∧
      t.get? "text" = some (.text input) ∧ t.get? "parsed_text" = some (.text input) ∧
      t.get? "resolved_intent" = some (.ofFound found) ∧
      ∀ field ∉ ["text", "parsed_text", "resolved_intent"],
        (∀ x ∈ found, x ∈ Node.clientIntents → field ∉ Node.clientFields) →
          t.get? field = w.get? field := by
  obtain ⟨v, hhead, hv⟩ := leads_decision env hw hinput
  rw [hfound] at hhead hv
  have hget (field : String) : v.get? field =
      (decidedContext input found w.context).lookup field := by
    rw [World.get?, hv, Record.get?]
  have hdistinct : Record.Distinct v.context := by
    rw [hv]
    exact ((hw.put _ _).put _ _).put _ _
  have hv_address : v.getD "url" (.text "") = .text address := by
    simpa [World.getD, hv, decidedContext, Record.getD_put] using haddress
  have hv_body : v.getD "response_body" (.text "") = .text body := by
    simpa [World.getD, hv, decidedContext, Record.getD_put] using hbody
  obtain ⟨t, due, htail, hends, hnodup, hframe⟩ :=
    leads_tail env hdistinct hv_address hv_body found
  have hnoted (field : String) (hfield : field ∉ Node.clientFields) :
      t.get? field = (decidedContext input found w.context).lookup field :=
    (hframe field fun _ _ _ => hfield).trans (hget field)
  have hrun : (stockEngine env .robot).run (.text "INTENT_INPUT" :: rest) w =
      ⟨t, path found, (tail found).2⟩ :=
    Engine.run_of_leads (hhead.trans htail) hnodup hends rest
  refine ⟨t, hrun, by rw [runFlow, hrun],
    by simp [hnoted "text" (by decide), lookup_decidedContext],
    by simp [hnoted "parsed_text" (by decide), lookup_decidedContext],
    by simp [hnoted "resolved_intent" (by decide), lookup_decidedContext],
    fun field hfield hclient => ?_⟩
  simp only [List.mem_cons, List.not_mem_nil, or_false, not_or] at hfield
  rw [hframe field hclient, hget, lookup_decidedContext, if_neg hfield.2.2, if_neg hfield.2.1,
    if_neg hfield.1]
  rfl

def savingLexicon : Lexicon := ⟨[(.text "保存", "INTENT_SAVE")]⟩

def savingContext : Record :=
  [("resolved_intent", .text "INTENT_ACTION"), ("input", .text "保存"), ("note", .int 1)]

/-- The run ends at the intent that was found, and not with the one left over. -/
theorem savingContext_refused :
    Record.Distinct savingContext ∧ savingLexicon.ofWord? "保存" = some "INTENT_SAVE" ∧
      ∃ t, (stockEngine { lexicon := savingLexicon } .robot).run [.text "INTENT_INPUT"]
          { context := savingContext } =
            ⟨t, ["INTENT_INPUT", "INTENT_PARSE", "INTENT_DECIDE"],
              .failed (.noCapability "INTENT_SAVE")⟩ ∧
        t.get? "resolved_intent" = some (.text "INTENT_SAVE") ∧
        t.get? "note" = some (.int 1) := by
  have hdistinct : Record.Distinct savingContext := by
    simp [Record.Distinct, savingContext]
  have hfound : savingLexicon.ofWord? "保存" = some "INTENT_SAVE" := by decide +kernel
  have htail : tail (some "INTENT_SAVE") =
      ([], .failed (.noCapability "INTENT_SAVE")) := by
    simp [tail, Node.clientIntents]
  obtain ⟨t, hrun, -, -, -, hintent, hothers⟩ :=
    run_follows_found { lexicon := savingLexicon } { context := savingContext } hdistinct
      "保存" "" "" rfl rfl rfl [] (some "INTENT_SAVE") hfound
  rw [path, htail] at hrun
  exact ⟨hdistinct, hfound, t, hrun, hintent, hothers "note" (by decide) (by decide)⟩

end Flowline.Robot
