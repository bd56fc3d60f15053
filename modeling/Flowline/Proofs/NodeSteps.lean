import Mathlib.Tactic.Lemma
import Flowline.Flow.Router
import Flowline.Proofs.EngineRuns
import Flowline.Proofs.Records

/-!
What the stock nodes do.

For each node there is one equation that says which fields it changes and what it sends; what it
prints is left open. A node that hands over the whole context changes no field, since the names of a
context are distinct. Of two nodes for one intent the one that is registered later serves it, so
every node serves its own intent but the one that asks for an address.
-/

namespace Flowline

def stripped (s : String) : String := String.ofList (Text.trim Text.isBlank s.toList)

/-- What is noted for a word of a lexicon: its intent, unless there is none or it is empty. -/
def Datum.ofFound : Option String → Datum
  | some found => if found = "" then .null else .text found
  | none => .null

namespace Http

def status : Http → Int
  | reply status _ => status
  | failure _ | unavailable => 0

def body : Http → String
  | reply _ text => text
  | failure message => message
  | unavailable => Node.noClientText

def sends (address : Datum) : Http → List Outgoing
  | reply .. | failure _ => [⟨address, 5⟩]
  | unavailable => []

end Http

namespace Node

/-! ### Registration -/

lemma lookup_foldl_register (ns : List Node) (table : List (String × Node)) (intent : String) :
    (ns.foldl register table).lookup intent =
      ((ns.filter (·.intent = intent)).getLast?).or (table.lookup intent) := by
  induction ns generalizing table with
  | nil => rfl
  | cons n ns ih =>
    rw [List.foldl_cons, ih, register, Record.lookup_put]
    by_cases h : n.intent = intent
    · rw [if_pos h.symm, List.filter_cons_of_pos (by simpa using h), List.getLast?_cons]
      cases (ns.filter (·.intent = intent)).getLast? <;> rfl
    · rw [if_neg (Ne.symm h), List.filter_cons_of_neg (by simpa using h)]

/-- The node that is registered last for an intent serves it. -/
lemma lookup_registered (intent : String) :
    registered.lookup intent = (all.filter (·.intent = intent)).getLast? := by
  rw [registered, lookup_foldl_register, List.lookup_nil, Option.or_none]

lemma lookup_intent {n : Node} (h : n ≠ askAddress) : registered.lookup n.intent = some n := by
  rw [lookup_registered]
  cases n <;> first | exact absurd rfl h | rfl

lemma of_lookup {intent : String} {n : Node} (h : registered.lookup intent = some n) :
    n.intent = intent ∧ n ≠ .askAddress := by
  have hlast := h
  rw [lookup_registered] at hlast
  have hmem := List.mem_of_getLast? hlast
  simp only [List.mem_filter, decide_eq_true_eq] at hmem
  refine ⟨hmem.2, ?_⟩
  rintro rfl
  have hreceive : registered.lookup intent = some .receive :=
    hmem.2 ▸ lookup_intent (n := .receive) (by decide)
  cases h.symm.trans hreceive

/-! ### Fields -/

variable (env : Surroundings) {w : World}

def onlySays : Node → Bool
  | decide | act | finish | handleSuccess | handleError | showSuccess | showError => true
  | _ => false

lemma step_of_onlySays {n : Node} (hn : n.onlySays = true) (hw : Record.Distinct w.context) :
    ∃ t, n.step env w = (t, none) ∧ t.context = w.context ∧ t.sent = w.sent := by
  have hself (text : String) :
      Record.update (w.printLine text).context w.context = w.context := hw.update_self
  cases n <;> first | exact ⟨_, rfl, hself _, rfl⟩ | cases hn

lemma step_receive :
    ∃ t, receive.step env w = (t, none) ∧
      t.context = Record.put w.context "text" (w.getD "input" (.text "")) ∧ t.sent = w.sent :=
  ⟨_, rfl, rfl, rfl⟩

lemma step_interpret {s : String} (h : w.getD "text" (.text "") = .text s) :
    ∃ t, interpret.step env w = (t, none) ∧
      t.context = Record.put (Record.put w.context "parsed_text" (.text s)) "resolved_intent"
        (.ofFound (env.lexicon.ofWord? s)) ∧
      t.sent = w.sent := by
  have hresolve : env.lexicon.resolve (.text s) = .ok (env.lexicon.ofWord? s) := rfl
  cases hfound : env.lexicon.ofWord? s with
  | none =>
    simp only [step, run, h, hresolve, hfound, Option.filter_none]
    exact ⟨_, rfl, rfl, rfl⟩
  | some found =>
    by_cases hempty : found = ""
    · subst hempty
      simp only [step, run, h, hresolve, hfound]
      exact ⟨_, rfl, rfl, rfl⟩
    · have hkeep : (some found).filter (!·.isEmpty) = some found := by simp [hempty]
      simp only [step, run, h, hresolve, hfound, hkeep, Datum.ofFound, if_neg hempty]
      exact ⟨_, rfl, rfl, rfl⟩

lemma step_parseAddress {u : String} (h : w.getD "url" (.text "") = .text u) :
    ∃ t, parseAddress.step env w = (t, none) ∧
      t.context = Record.put w.context "url" (.text (stripped u)) ∧ t.sent = w.sent := by
  simp only [step, run, h]
  exact ⟨_, rfl, rfl, rfl⟩

/-- The two fields of an answer are entered and handed over, which comes to the same. -/
lemma step_of_answered {n : Node} {v : World} {status : Int} {body : String}
    (h : n.run env w = answered v status body) :
    n.step env w =
      ((v.put "status_code" (.int status)).put "response_body" (.text body), none) := by
  have hagain : Record.update ((v.put "status_code" (.int status)).put "response_body"
        (.text body)).context [("status_code", .int status), ("response_body", .text body)] =
      ((v.put "status_code" (.int status)).put "response_body" (.text body)).context := by
    apply Record.update_of_lookup
    simp [World.put, Record.lookup_put]
  simp only [step, h, answered, hagain]

lemma step_request :
    ∃ t, request.step env w = (t, none) ∧
      t.context = Record.put (Record.put w.context "status_code" (.int env.http.status))
        "response_body" (.text env.http.body) ∧
      t.sent = w.sent ++ env.http.sends (w.getD "url" .null) := by
  cases hhttp : env.http with
  | reply status text =>
    rw [step_of_answered env (by simp only [run, hhttp]; rfl)]
    exact ⟨_, rfl, rfl, rfl⟩
  | failure message =>
    rw [step_of_answered env (by simp only [run, hhttp]; rfl)]
    exact ⟨_, rfl, rfl, rfl⟩
  | unavailable =>
    rw [step_of_answered env (by simp only [run, hhttp]; rfl), Http.sends, List.append_nil]
    exact ⟨_, rfl, rfl, rfl⟩

lemma step_extract {b : String} (h : w.getD "response_body" (.text "") = .text b) :
    ∃ t, extract.step env w = (t, none) ∧
      t.context =
        Record.put w.context "snippet" (.text (String.ofList (b.toList.take 120))) ∧
      t.sent = w.sent := by
  simp only [step, run, h, snippetOf]
  exact ⟨_, rfl, rfl, rfl⟩

def clientIntents : List String :=
  ["INTENT_PARSE_URL", "INTENT_HTTP_REQUEST", "INTENT_HANDLE_SUCCESS", "INTENT_HANDLE_ERROR",
    "INTENT_EXTRACT_DATA", "INTENT_OUTPUT_SUCCESS", "INTENT_OUTPUT_ERROR"]

def clientFields : List String := ["url", "status_code", "response_body", "snippet"]

lemma lookup_put_client {c : Record} {name field : String} {v : Datum}
    (hname : name ∈ clientFields) (hfield : field ∉ clientFields) :
    (Record.put c name v).lookup field = c.lookup field := by
  have hne : field ≠ name := fun h => hfield (h ▸ hname)
  rw [Record.lookup_put, if_neg hne]

/-- A node of the client returns and leaves all other fields alone. -/
lemma step_of_client {n : Node} (hn : n.intent ∈ clientIntents)
    (hw : Record.Distinct w.context) {address body : String}
    (haddress : w.getD "url" (.text "") = .text address)
    (hbody : w.getD "response_body" (.text "") = .text body) :
    ∃ t, n.step env w = (t, none) ∧ ∀ field ∉ clientFields, t.get? field = w.get? field := by
  simp only [World.get?, Record.get?]
  by_cases hsays : n.onlySays = true
  · -- a node that only says something changes no field
    obtain ⟨t, hstep, ht, -⟩ := step_of_onlySays env hsays hw
    exact ⟨t, hstep, fun field _ => by rw [ht]⟩
  cases n with
  | parseAddress =>
    obtain ⟨t, hstep, ht, -⟩ := step_parseAddress env haddress
    exact ⟨t, hstep, fun field hfield => by
      rw [ht, lookup_put_client (by decide) hfield]⟩
  | request =>
    obtain ⟨t, hstep, ht, -⟩ := step_request env (w := w)
    exact ⟨t, hstep, fun field hfield => by
      rw [ht, lookup_put_client (by decide) hfield, lookup_put_client (by decide) hfield]⟩
  | extract =>
    obtain ⟨t, hstep, ht, -⟩ := step_extract env hbody
    exact ⟨t, hstep, fun field hfield => by
      rw [ht, lookup_put_client (by decide) hfield]⟩
  | handleSuccess | handleError | showSuccess | showError => exact absurd rfl hsays
  | askAddress | receive | interpret | decide | act | finish => exact absurd hn (by decide)

end Node

/-! ### The stock engine -/

section

variable (env : Surroundings) (router : Router)

lemma lookup_stockEngine (intent : String) :
    (stockEngine env router).nodes.lookup intent =
      (Node.registered.lookup intent).map fun n => n.step env := by
  simp only [stockEngine]
  generalize Node.registered = table
  induction table with
  | nil => rfl
  | cons e table ih =>
    rw [List.map_cons, Record.lookup_cons, Record.lookup_cons, ih]
    by_cases h : intent = e.1 <;> simp [h]

lemma mem_intents_stockEngine {intent : String} :
    intent ∈ (stockEngine env router).intents ↔ ∃ n : Node, n.intent = intent := by
  rw [← not_iff_not, ← Engine.lookup_eq_none_iff, lookup_stockEngine, Node.lookup_registered,
    Option.map_eq_none_iff, List.getLast?_eq_none_iff, List.filter_eq_nil_iff]
  simp only [decide_eq_true_eq, not_exists]
  exact ⟨fun h n => h n (by cases n <;> decide), fun h n _ => h n⟩

variable {env router}

lemma leads_node {w t u : World} {due : Next} {is : List String} {d : Datum} (n : Node)
    (hn : n ≠ .askAddress) (hstep : n.step env w = (t, none))
    (hnext : router.next n.intent t.context = .ok d)
    (onward : (stockEngine env router).Leads t (.ofDatum d) is u due) :
    (stockEngine env router).Leads w (.go n.intent) (n.intent :: is) u due :=
  .turn (by rw [lookup_stockEngine, Node.lookup_intent hn]; rfl) hstep hnext onward

end

end Flowline
