import Mathlib.Data.List.DropRight
import Mathlib.Tactic.Lemma
import Flowline.Proofs.NodeSteps

/-!
Runs of the client.

From an address the client goes to the request and, by the status that came of it, to one of two
branches. What stood in the context before does not matter, since the request enters the status
before the router looks at it. The node that would take the address from the input has lost its
place to another, so a run that begins with the input requests the empty address.
-/

namespace Flowline

namespace Text

lemma trim_eq_nil_iff {p : Char → Bool} {cs : List Char} :
    trim p cs = [] ↔ ∀ c ∈ cs, p c = true := by
  have hend (ds : List Char) : trimEnd p ds = [] ↔ ds.dropWhile p = [] := by
    simp [trimEnd, List.dropWhile_eq_nil_iff]
  rw [trim, hend, trimStart, List.dropWhile_idempotent, List.dropWhile_eq_nil_iff]

end Text

lemma stripped_eq_empty_iff {s : String} :
    stripped s = "" ↔ ∀ c ∈ s.toList, Text.isBlank c = true := by
  rw [stripped, ← Text.trim_eq_nil_iff, String.ofList_eq_empty_iff]

def Http.Succeeds (h : Http) : Prop := 200 ≤ h.status ∧ h.status < 300

instance (h : Http) : Decidable h.Succeeds := inferInstanceAs (Decidable (_ ∧ _))

namespace Client

def path (h : Http) : List String :=
  ["INTENT_PARSE_URL", "INTENT_HTTP_REQUEST"] ++
    if h.Succeeds then ["INTENT_HANDLE_SUCCESS", "INTENT_EXTRACT_DATA", "INTENT_OUTPUT_SUCCESS"]
    else ["INTENT_HANDLE_ERROR", "INTENT_OUTPUT_ERROR"]

/-- The first world has become the second by requesting an address. -/
structure Fetched (h : Http) (address : String) (w t : World) : Prop where
  url : t.get? "url" = some (.text (stripped address))
  status : t.get? "status_code" = some (.int h.status)
  body : t.get? "response_body" = some (.text h.body)
  snippet : h.Succeeds →
    t.get? "snippet" = some (.text (String.ofList (h.body.toList.take 120)))
  others : ∀ field, field ∉ ["url", "status_code", "response_body"] →
    (h.Succeeds → field ≠ "snippet") → t.get? field = w.get? field
  sent : t.sent = w.sent ++ h.sends (.text (stripped address))

lemma isSuccess_int (n : Int) : isSuccess (.int n) = .ok (200 ≤ n ∧ n < 300 : Bool) := by
  by_cases h : n = 0
  · subst h
    rfl
  · simp [isSuccess, Datum.truthy, h]

def branch (h : Http) : String :=
  if h.Succeeds then "INTENT_HANDLE_SUCCESS" else "INTENT_HANDLE_ERROR"

lemma next_request {h : Http} {c : Record}
    (hc : Record.getD c "status_code" .null = .int h.status) :
    Router.client.next "INTENT_HTTP_REQUEST" c = .ok (.text (branch h)) := by
  have hsuccess : isSuccess (.int h.status) = .ok (decide h.Succeeds) := isSuccess_int _
  by_cases hs : h.Succeeds <;> simp [Router.next, hc, hsuccess, branch, hs]

variable {w : World}

/-! ### From the address to the request -/

def answeredContext (h : Http) (address : String) (c : Record) : Record :=
  Record.put (Record.put (Record.put c "url" (.text (stripped address)))
    "status_code" (.int h.status)) "response_body" (.text h.body)

lemma lookup_answeredContext (h : Http) (address : String) (c : Record) (field : String) :
    (answeredContext h address c).lookup field =
      if field = "response_body" then some (.text h.body)
      else if field = "status_code" then some (.int h.status)
      else if field = "url" then some (.text (stripped address))
      else c.lookup field := by
  simp only [answeredContext, Record.lookup_put]

/-- What has to be known of the fields after the request and a branch. -/
lemma fetched_of_get {h : Http} {address : String} {t : World}
    (hget : ∀ field, t.get? field = if h.Succeeds ∧ field = "snippet"
      then some (.text (String.ofList (h.body.toList.take 120)))
      else (answeredContext h address w.context).lookup field)
    (hsent : t.sent = w.sent ++ h.sends (.text (stripped address))) : Fetched h address w t where
  url := by simp [hget, lookup_answeredContext]
  status := by simp [hget, lookup_answeredContext]
  body := by simp [hget, lookup_answeredContext]
  snippet hs := by simp [hget, hs]
  others field hfield hsnippet := by
    simp only [List.mem_cons, List.not_mem_nil, or_false, not_or] at hfield
    rw [hget, if_neg fun hs => hsnippet hs.1 hs.2, lookup_answeredContext, if_neg hfield.2.2,
      if_neg hfield.2.1, if_neg hfield.1]
    rfl
  sent := hsent

lemma leads_request (env : Surroundings) {address : String}
    (haddress : w.getD "url" (.text "") = .text address) :
    ∃ t, (stockEngine env .client).Leads w (.go "INTENT_PARSE_URL")
        ["INTENT_PARSE_URL", "INTENT_HTTP_REQUEST"] t (.ofDatum (.text (branch env.http))) ∧
      t.context = answeredContext env.http address w.context ∧
      t.sent = w.sent ++ env.http.sends (.text (stripped address)) := by
  obtain ⟨v, hparse, hv, hvsent⟩ := Node.step_parseAddress env haddress
  obtain ⟨t, hask, ht, htsent⟩ := Node.step_request env (w := v)
  have hurl : v.getD "url" .null = .text (stripped address) := by
    simp [World.getD, hv, Record.getD_put]
  have hstatus : Record.getD t.context "status_code" .null = .int env.http.status := by
    simp [ht, Record.getD_put]
  refine ⟨t, leads_node .parseAddress (by decide) hparse rfl <|
    leads_node .request (by decide) hask (next_request hstatus) (.here _ _), ?_, ?_⟩
  · rw [ht, hv, answeredContext]
  · rw [htsent, hvsent, hurl]

/-! ### The branches -/

lemma leads_success (env : Surroundings) (hw : Record.Distinct w.context) {b : String}
    (hb : w.getD "response_body" (.text "") = .text b) :
    ∃ t, (stockEngine env .client).Leads w (.go "INTENT_HANDLE_SUCCESS")
        ["INTENT_HANDLE_SUCCESS", "INTENT_EXTRACT_DATA", "INTENT_OUTPUT_SUCCESS"] t .stop ∧
      t.context = Record.put w.context "snippet" (.text (String.ofList (b.toList.take 120))) ∧
      t.sent = w.sent := by
  obtain ⟨v, hhandle, hv, hvsent⟩ := Node.step_of_onlySays env (n := .handleSuccess) rfl hw
  have hvb : v.getD "response_body" (.text "") = .text b := by rwa [World.getD, hv]
  obtain ⟨u, hextract, hu, husent⟩ := Node.step_extract env hvb
  have hdistinct : Record.Distinct u.context := by
    rw [hu, hv]
    exact hw.put _ _
  obtain ⟨t, hshow, ht, htsent⟩ := Node.step_of_onlySays env (n := .showSuccess) rfl hdistinct
  refine ⟨t, leads_node .handleSuccess (by decide) hhandle rfl <|
    leads_node .extract (by decide) hextract rfl <|
      leads_node .showSuccess (by decide) hshow rfl (.here _ _), ?_, ?_⟩
  · rw [ht, hu, hv]
  · rw [htsent, husent, hvsent]

lemma leads_error (env : Surroundings) (hw : Record.Distinct w.context) :
    ∃ t, (stockEngine env .client).Leads w (.go "INTENT_HANDLE_ERROR")
        ["INTENT_HANDLE_ERROR", "INTENT_OUTPUT_ERROR"] t .stop ∧
      t.context = w.context ∧ t.sent = w.sent := by
  obtain ⟨v, hhandle, hv, hvsent⟩ := Node.step_of_onlySays env (n := .handleError) rfl hw
  obtain ⟨t, hshow, ht, htsent⟩ := Node.step_of_onlySays env (n := .showError) rfl (hv ▸ hw)
  refine ⟨t, leads_node .handleError (by decide) hhandle rfl <|
    leads_node .showError (by decide) hshow rfl (.here _ _), ?_, ?_⟩
  · rw [ht, hv]
  · rw [htsent, hvsent]

lemma leads_fetched (env : Surroundings) (hw : Record.Distinct w.context) {address : String}
    (haddress : w.getD "url" (.text "") = .text address) :
    ∃ t, (stockEngine env .client).Leads w (.go "INTENT_PARSE_URL") (path env.http) t .stop ∧
      Fetched env.http address w t := by
  obtain ⟨v, hrequest, hv, hsent⟩ := leads_request env haddress
  have hdistinct : Record.Distinct v.context := by
    rw [hv]
    exact ((hw.put _ _).put _ _).put _ _
  by_cases h : env.http.Succeeds
  · have hbody : v.getD "response_body" (.text "") = .text env.http.body := by
      simp [World.getD, hv, answeredContext, Record.getD_put]
    obtain ⟨t, hbranch, ht, htsent⟩ := leads_success env hdistinct hbody
    rw [branch, if_pos h] at hrequest
    refine ⟨t, by rw [path, if_pos h]; exact hrequest.trans hbranch,
      fetched_of_get (fun field => ?_) (by rw [htsent, hsent])⟩
    rw [World.get?, Record.get?, ht, hv, Record.lookup_put]
    simp [h]
  · obtain ⟨t, hbranch, ht, htsent⟩ := leads_error env hdistinct
    rw [branch, if_neg h] at hrequest
    refine ⟨t, by rw [path, if_neg h]; exact hrequest.trans hbranch,
      fetched_of_get (fun field => ?_) (by rw [htsent, hsent])⟩
    rw [World.get?, Record.get?, ht, hv]
    simp [h]

/-! ### Whole runs -/

lemma nodup_path (h : Http) : ("INTENT_INPUT" :: path h).Nodup := by
  by_cases hs : h.Succeeds
  · rw [path, if_pos hs]
    decide
  · rw [path, if_neg hs]
    decide

/-- **The client takes the branch of its reply**: from a context with an address, whatever else it
holds, a run finishes on the path of what came of the request. It sends one request, if there is a
client, to the address without the blanks around it, and changes the fields of the reply only. -/
theorem run_takes_branch (env : Surroundings) (w : World)
    (hw : Record.Distinct w.context) (address : String)
    (haddress : w.get? "url" = some (.text address)) (rest : List Datum) :
    ∃ t, (stockEngine env .client).run (.text "INTENT_PARSE_URL" :: rest) w =
        ⟨t, path env.http, .finished⟩ ∧
      runFlow env .client (.text "INTENT_PARSE_URL" :: rest) w = (t, none) ∧
      Fetched env.http address w t := by
  have hurl : w.getD "url" (.text "") = .text address := by
    rw [World.getD, Record.getD]
    exact congrArg (Option.getD · (.text "")) haddress
  obtain ⟨t, hleads, hfetched⟩ := leads_fetched env hw hurl
  have hrun : (stockEngine env .client).run (.text "INTENT_PARSE_URL" :: rest) w =
      ⟨t, path env.http, .finished⟩ :=
    Engine.run_of_leads hleads (nodup_path env.http).of_cons .missing rest
  exact ⟨t, hrun, by rw [runFlow, hrun]; rfl, hfetched⟩

def staleContext : Record :=
  [("status_code", .int 500), ("url", .text " http://a "), ("response_body", .list []),
    ("snippet", .bool true), ("note", .null)]

/-- A reply without content is a success, whatever was left over. -/
theorem staleContext_fetched :
    Record.Distinct staleContext ∧ Record.get? staleContext "url" = some (.text " http://a ") ∧
      ∃ t, (stockEngine { http := .reply 204 "" } .client).run [.text "INTENT_PARSE_URL"]
          { context := staleContext } =
            ⟨t, ["INTENT_PARSE_URL", "INTENT_HTTP_REQUEST", "INTENT_HANDLE_SUCCESS",
              "INTENT_EXTRACT_DATA", "INTENT_OUTPUT_SUCCESS"], .finished⟩ ∧
        runFlow { http := .reply 204 "" } .client [.text "INTENT_PARSE_URL"]
          { context := staleContext } = (t, none) ∧
        Fetched (.reply 204 "") " http://a " { context := staleContext } t := by
  have hdistinct : Record.Distinct staleContext := by
    simp [Record.Distinct, staleContext]
  exact ⟨hdistinct, rfl, run_takes_branch { http := .reply 204 "" }
    { context := staleContext } hdistinct " http://a " rfl []⟩

/-- Whatever it is given, a run from the input requests the empty address. -/
lemma sent_of_input (env : Surroundings) (given : String) (input : List Char) :
    (runFlow env .client [.text "INTENT_INPUT"]
      { context := [("input", .text given)], input }).1.sent = env.http.sends (.text "") := by
  obtain ⟨v, hreceive, hv, hvsent⟩ := Node.step_receive env
    (w := { context := [("input", .text given)], input })
  have hdistinct : Record.Distinct v.context := by
    rw [hv]
    exact (show Record.Distinct [("input", .text given)] from List.nodup_singleton _).put _ _
  have hurl : v.getD "url" (.text "") = .text "" := by
    rw [World.getD, hv, Record.getD_put]
    rfl
  obtain ⟨t, hleads, hfetched⟩ := leads_fetched env hdistinct hurl
  have hinput : (stockEngine env .client).Leads { context := [("input", .text given)], input }
      (.ofDatum (.text "INTENT_INPUT")) ("INTENT_INPUT" :: path env.http) t .stop :=
    leads_node .receive (by decide) hreceive rfl hleads
  rw [runFlow, Engine.run_of_leads hinput (nodup_path env.http) .missing []]
  have hblank : stripped "" = "" := stripped_eq_empty_iff.mpr (by simp)
  simp [Ending.notice?, hfetched.sent, hvsent, hblank]

/-- **The client loses the address it is given**: a run from the input sends its request to the
empty address. So there is one request, to the given address without the blanks around it, only if
there is a client and the given address is blank. -/
theorem requests_given_iff (env : Surroundings) (given : String) (input : List Char) :
    (runFlow env .client [.text "INTENT_INPUT"]
        { context := [("input", .text given)], input }).1.sent = env.http.sends (.text "") ∧
    ((runFlow env .client [.text "INTENT_INPUT"]
        { context := [("input", .text given)], input }).1.sent =
          [⟨.text (stripped given), 5⟩] ↔
      env.http ≠ .unavailable ∧ ∀ c ∈ given.toList, Text.isBlank c = true) := by
  refine ⟨sent_of_input env given input, ?_⟩
  rw [sent_of_input, ← stripped_eq_empty_iff]
  cases env.http with
  | unavailable => simp [Http.sends]
  | reply status text => simp [Http.sends]
  | failure message => simp [Http.sends]

/-- The address that was given is not the one that is requested. -/
theorem givenAddress_lost :
    stripped " http://u " = "http://u" ∧
      (runFlow { http := .reply 200 "ok" } .client [.text "INTENT_INPUT"]
        { context := [("input", .text " http://u ")] }).1.sent = [⟨.text "", 5⟩] ∧
      (runFlow { http := .reply 200 "ok" } .client [.text "INTENT_INPUT"]
        { context := [("input", .text " http://u ")] }).1.sent ≠ [⟨.text "http://u", 5⟩] := by
  have hsent := sent_of_input { http := .reply 200 "ok" } " http://u " []
  refine ⟨by decide +kernel, hsent, ?_⟩
  rw [hsent]
  simp [Http.sends]

end Client

end Flowline
