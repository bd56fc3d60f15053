import Mathlib.Data.List.Forall2
import Mathlib.Tactic.Lemma
import Flowline.Editor.Debug

/-!
Requests and what a session sends for them.

Responses and events take their numbers from one counter, whichever handler sends them. So it is
said for one message what is sent for it, numbers left open (`Exchanged`), and for a list of messages
that their numbers go on where the counter stands (`NumberedFrom`). A whole session is one message
after the other.
-/

namespace Flowline.Editor

/-! ### Messages -/

def messageField (m : Datum) (name : String) : Option Datum :=
  match m with
  | .record r => Record.get? r name
  | _ => none

@[simp] lemma messageField_record (r : Record) (name : String) :
    messageField (.record r) name = Record.get? r name := rfl

def IsRequest (m : Datum) : Prop := messageField m "type" = some (.text "request")

def AsksFor (m : Datum) (command : String) : Prop :=
  messageField m "command" = some (.text command)

/-- The request is to launch a program: its arguments name one. -/
structure LaunchesProgram (m : Datum) : Prop where
  request : IsRequest m
  launch : AsksFor m "launch"
  program : ∃ arguments program, messageField m "arguments" = some arguments ∧
    messageField arguments "program" = some program ∧ isGiven program = true

def obeyedCommands : List String := ["initialize", "disconnect", "threads", "configurationDone"]

def Obeyed (m : Datum) : Prop := ∃ command ∈ obeyedCommands, AsksFor m command

/-- The response to a request: it names the request and its command, and either succeeds or tells an
error. -/
structure AnsweredBy (request response : Datum) : Prop where
  kind : messageField response "type" = some (.text "response")
  number : messageField response "request_seq" = messageField request "seq"
  command : messageField response "command" = messageField request "command"
  success : Obeyed request →
    messageField response "success" = some (.bool true) ∧ messageField response "message" = none
  failure : ¬ Obeyed request →
    messageField response "success" = some (.bool false) ∧
      ∃ text, messageField response "message" = some (.text text)

structure IsInitialized (m : Datum) : Prop where
  kind : messageField m "type" = some (.text "event")
  event : messageField m "event" = some (.text "initialized")

/-- What is sent for a message: nothing unless it is a request, then the response to it, and after
the response to `initialize` an event. -/
inductive Exchanged : Datum → List Datum → Prop
  | silent {m : Datum} (hm : ¬ IsRequest m) : Exchanged m []
  | answered {m response : Datum} (hm : IsRequest m) (hother : ¬ AsksFor m "initialize")
      (hresponse : AnsweredBy m response) : Exchanged m [response]
  | initialized {m response event : Datum} (hm : IsRequest m) (hfirst : AsksFor m "initialize")
      (hresponse : AnsweredBy m response) (hevent : IsInitialized event) :
      Exchanged m [response, event]

/-- The messages are numbered one after the other. -/
def NumberedFrom (n : Int) : List Datum → Prop
  | [] => True
  | m :: ms => messageField m "seq" = some (.int n) ∧ NumberedFrom (n + 1) ms

lemma NumberedFrom.append {n : Int} {ms ns : List Datum} (hms : NumberedFrom n ms)
    (hns : NumberedFrom (n + ms.length) ns) : NumberedFrom n (ms ++ ns) := by
  induction ms generalizing n with
  | nil => simpa using hns
  | cons m ms ih =>
    obtain ⟨hfirst, hrest⟩ := hms
    have hlength : n + ((m :: ms).length : Int) = n + 1 + ms.length := by
      rw [List.length_cons]
      omega
    rw [hlength] at hns
    exact ⟨hfirst, ih hrest hns⟩

/-! ### One request -/

section

variable (request : Record) (body : Option Datum) (refusal : Option String) (n : Int)

lemma responseTo_seq :
    messageField (responseTo request body refusal n) "seq" = some (.int n) := rfl

lemma responseTo_kind :
    messageField (responseTo request body refusal n) "type" = some (.text "response") := rfl

lemma responseTo_success :
    messageField (responseTo request body refusal n) "success" = some (.bool refusal.isNone) := rfl

lemma responseTo_number :
    messageField (responseTo request body refusal n) "request_seq" = Record.get? request "seq" := by
  simp only [messageField, responseTo]
  cases Record.get? request "seq" <;> cases Record.get? request "command" <;> cases body <;>
    cases refusal <;> rfl

lemma responseTo_command :
    messageField (responseTo request body refusal n) "command" =
      Record.get? request "command" := by
  simp only [messageField, responseTo]
  cases Record.get? request "seq" <;> cases Record.get? request "command" <;> cases body <;>
    cases refusal <;> rfl

lemma responseTo_message :
    messageField (responseTo request body refusal n) "message" = refusal.map .text := by
  simp only [messageField, responseTo]
  cases Record.get? request "seq" <;> cases Record.get? request "command" <;> cases body <;>
    cases refusal <;> rfl

end

lemma answeredBy_accepted {request : Record} (h : Obeyed (.record request)) (body : Option Datum)
    (n : Int) : AnsweredBy (.record request) (responseTo request body none n) where
  kind := responseTo_kind ..
  number := responseTo_number ..
  command := responseTo_command ..
  success _ := ⟨responseTo_success .., responseTo_message ..⟩
  failure hnot := absurd h hnot

lemma answeredBy_refused {request : Record} (h : ¬ Obeyed (.record request)) (reason : String)
    (n : Int) : AnsweredBy (.record request) (responseTo request none (some reason) n) where
  kind := responseTo_kind ..
  number := responseTo_number ..
  command := responseTo_command ..
  success hobeyed := absurd hobeyed h
  failure _ := ⟨responseTo_success .., reason, responseTo_message ..⟩

lemma isInitialized_eventMessage (n : Int) : IsInitialized (eventMessage "initialized" none n) :=
  ⟨rfl, rfl⟩

lemma text?_eq_some_iff {d : Datum} {s : String} : d.text? = some s ↔ d = .text s := by
  cases d <;> simp [Datum.text?]

lemma asksFor_iff {request : Record} {command : String} :
    AsksFor (.record request) command ↔
      (Record.get? request "command").bind Datum.text? = some command := by
  simp only [AsksFor, messageField_record, Option.bind_eq_some_iff, text?_eq_some_iff,
    exists_eq_right]

lemma AsksFor.unique {m : Datum} {c d : String} (hc : AsksFor m c) (hd : AsksFor m d) : c = d := by
  have heq := hc.symm.trans hd
  simpa using heq

lemma not_obeyed_of_asksFor {m : Datum} {c : String} (hc : AsksFor m c)
    (hnot : c ∉ obeyedCommands) : ¬ Obeyed m := by
  rintro ⟨d, hd, hasks⟩
  exact hnot (hc.unique hasks ▸ hd)

lemma exists_program {request : Record} (h : hasField (launchArguments request) "program" = true) :
    ∃ arguments program, messageField (.record request) "arguments" = some arguments ∧
      messageField arguments "program" = some program ∧ isGiven program = true := by
  unfold launchArguments at h
  split at h
  · next r harguments =>
    unfold hasField Record.getD at h
    rcases hprogram : r.lookup "program" with _ | program
    · rw [hprogram] at h
      cases h
    · rw [hprogram] at h
      exact ⟨.record r, program, harguments, hprogram, h⟩
  · cases h

lemma launchAnswers_of_not {request : Record} (hrequest : IsRequest (.record request))
    (hlaunch : AsksFor (.record request) "launch") (h : ¬ LaunchesProgram (.record request)) :
    launchAnswers request = [responseTo request none (some "No program specified")] := by
  have hnone : hasField (launchArguments request) "program" = false := by
    rw [← Bool.not_eq_true]
    intro hprogram
    exact h ⟨hrequest, hlaunch, exists_program hprogram⟩
  simp [launchAnswers, hnone]

/-- What is sent for a request is what is owed for it, whatever the numbers are. -/
lemma answers_spec {request : Record} (hrequest : IsRequest (.record request))
    (h : ¬ LaunchesProgram (.record request)) :
    (AsksFor (.record request) "initialize" ∧
        answers request =
          [responseTo request (some abilities) none, eventMessage "initialized" none]) ∨
      (¬ AsksFor (.record request) "initialize" ∧
        ∃ body refusal, answers request = [responseTo request body refusal] ∧
          ∀ n, AnsweredBy (.record request) (responseTo request body refusal n)) := by
  have hother {c : String} (hc : AsksFor (.record request) c) (hne : c ≠ "initialize") :
      ¬ AsksFor (.record request) "initialize" := fun hfirst => hne (hc.unique hfirst)
  have haccepted {c : String} (hc : AsksFor (.record request) c) (hmem : c ∈ obeyedCommands)
      (body : Option Datum) (n : Int) :
      AnsweredBy (.record request) (responseTo request body none n) :=
    answeredBy_accepted ⟨c, hmem, hc⟩ body n
  generalize hanswers : answers request = sent
  unfold answers at hanswers
  simp only at hanswers
  split at hanswers
  · next hcommand => exact .inl ⟨asksFor_iff.mpr hcommand, hanswers.symm⟩
  · next hcommand =>
    have hasks := asksFor_iff.mpr hcommand
    rw [launchAnswers_of_not hrequest hasks h] at hanswers
    exact .inr ⟨hother hasks (by decide), _, _, hanswers.symm,
      answeredBy_refused (not_obeyed_of_asksFor hasks (by decide)) _⟩
  · next hcommand =>
    have hasks := asksFor_iff.mpr hcommand
    exact .inr ⟨hother hasks (by decide), _, _, hanswers.symm, haccepted hasks (by decide) _⟩
  · next hcommand =>
    have hasks := asksFor_iff.mpr hcommand
    exact .inr ⟨hother hasks (by decide), _, _, hanswers.symm, haccepted hasks (by decide) _⟩
  · next hcommand =>
    have hasks := asksFor_iff.mpr hcommand
    exact .inr ⟨hother hasks (by decide), _, _, hanswers.symm, haccepted hasks (by decide) _⟩
  · next hinitialize hlaunch hdisconnect hdone hthreads =>
    -- what is left is no command that a session knows
    have hnot : ¬ Obeyed (.record request) := by
      rintro ⟨c, hc, hasks⟩
      rw [asksFor_iff] at hasks
      simp only [obeyedCommands, List.mem_cons, List.not_mem_nil, or_false] at hc
      rcases hc with rfl | rfl | rfl | rfl
      · exact hinitialize hasks
      · exact hdisconnect hasks
      · exact hthreads hasks
      · exact hdone hasks
    exact .inr ⟨fun hfirst => hinitialize (asksFor_iff.mp hfirst), _, _, hanswers.symm,
      answeredBy_refused hnot _⟩

/-! ### A whole session -/

lemma isRequest_iff {r : Record} :
    IsRequest (.record r) ↔ (Record.getD r "type" .null).text? = some "request" := by
  unfold IsRequest Record.getD
  rw [messageField_record, text?_eq_some_iff, Record.get?]
  rcases r.lookup "type" with _ | d <;> simp

lemma take_of_not_isRequest {m : Datum} (s : Session) (h : ¬ IsRequest m) : s.take m = (s, []) := by
  cases m with
  | record r =>
    rw [isRequest_iff] at h
    exact if_neg h
  | null | bool | int | real | text | list => rfl

lemma take_of_isRequest {r : Record} {s : Session} (hlive : s.live = true)
    (h : IsRequest (.record r)) :
    s.take (.record r) =
      ({ s with next := s.next + (answers r).length },
        (answers r).zipIdx.map fun x => x.1 (s.next + x.2)) := by
  rw [isRequest_iff] at h
  simp [Session.take, h, hlive]

/-- What a session does with one message: it stays open, sends what is owed for the message, and goes
on with the numbers. -/
lemma take_spec {s : Session} (hlive : s.live = true) {m : Datum} (h : ¬ LaunchesProgram m) :
    (s.take m).1 = { s with next := s.next + (s.take m).2.length } ∧
      Exchanged m (s.take m).2 ∧ NumberedFrom s.next (s.take m).2 := by
  by_cases hrequest : IsRequest m
  · cases m with
    | record r =>
      rw [take_of_isRequest hlive hrequest]
      obtain ⟨hfirst, hanswers⟩ | ⟨hother, body, refusal, hanswers, hanswered⟩ :=
        answers_spec hrequest h
      · have hobeyed : Obeyed (.record r) := ⟨"initialize", by decide, hfirst⟩
        rw [hanswers]
        exact ⟨rfl, .initialized hrequest hfirst (answeredBy_accepted hobeyed _ _)
          (isInitialized_eventMessage _), by simp [responseTo_seq], rfl, trivial⟩
      · rw [hanswers]
        exact ⟨rfl, .answered hrequest hother (hanswered _), by simp [responseTo_seq], trivial⟩
    | null | bool | int | real | text | list => cases hrequest
  · rw [take_of_not_isRequest s hrequest]
    exact ⟨by simp, .silent hrequest, trivial⟩

lemma takeAll_cons (s : Session) (m : Datum) (ms : List Datum) :
    s.takeAll (m :: ms) =
      (((s.take m).1.takeAll ms).1, (s.take m).2 ++ ((s.take m).1.takeAll ms).2) := rfl

/-- What an open session does with messages, from whatever number it stands at. -/
lemma takeAll_spec {ms : List Datum} (h : ∀ m ∈ ms, ¬ LaunchesProgram m) (s : Session)
    (hlive : s.live = true) :
    ∃ parts, List.Forall₂ Exchanged ms parts ∧ (s.takeAll ms).2 = parts.flatten ∧
      NumberedFrom s.next (s.takeAll ms).2 := by
  induction ms generalizing s with
  | nil => exact ⟨[], .nil, rfl, trivial⟩
  | cons m ms ih =>
    rw [List.forall_mem_cons] at h
    obtain ⟨hsession, hexchanged, hnumbered⟩ := take_spec hlive h.1
    have hlive' : (s.take m).1.live = true := by
      rw [hsession]
      exact hlive
    obtain ⟨parts, hparts, hsent, hrest⟩ := ih h.2 (s.take m).1 hlive'
    -- the rest is numbered from where the first message has left the counter
    have hnext : (s.take m).1.next = s.next + (s.take m).2.length := by rw [hsession]
    rw [hnext] at hrest
    rw [takeAll_cons]
    refine ⟨(s.take m).2 :: parts, .cons hexchanged hparts, ?_, hnumbered.append hrest⟩
    rw [List.flatten_cons, ← hsent]

/-- A session that is asked to launch no program answers every request once: what it sends is what is
owed for each message, in the order of the messages, and it is numbered from one without a gap. -/
theorem session_answers_once (messages : List Datum) (h : ∀ m ∈ messages, ¬ LaunchesProgram m) :
    ∃ parts, List.Forall₂ Exchanged messages parts ∧
      (({} : Session).takeAll messages).2 = parts.flatten ∧
      NumberedFrom 1 (({} : Session).takeAll messages).2 :=
  takeAll_spec h {} rfl

/-- A session with a repeated beginning, an event of the other side, a launch with an empty program,
an unknown command and an end. -/
def startedTwice : List Datum :=
  [.record [("seq", .int 1), ("type", .text "request"), ("command", .text "initialize")],
    .record [("seq", .int 2), ("type", .text "event"), ("event", .text "stopped")],
    .record [("seq", .int 5), ("type", .text "request"), ("command", .text "initialize")],
    .record [("seq", .int 6), ("type", .text "request"), ("command", .text "launch"),
      ("arguments", .record [("program", .text "")])],
    .record [("type", .text "request"), ("command", .text "stackTrace")],
    .record [("seq", .int 7), ("type", .text "request"), ("command", .text "disconnect")]]

theorem startedTwice_answered :
    (∀ m ∈ startedTwice, ¬ LaunchesProgram m) ∧
      (({} : Session).takeAll startedTwice).2.length = 7 ∧
      ∃ parts, List.Forall₂ Exchanged startedTwice parts ∧
        (({} : Session).takeAll startedTwice).2 = parts.flatten ∧
        NumberedFrom 1 (({} : Session).takeAll startedTwice).2 := by
  have h : ∀ m ∈ startedTwice, ¬ LaunchesProgram m := by
    intro m hm hlaunches
    obtain ⟨hrequest, hlaunch, arguments, program, harguments, hprogram, hgiven⟩ := hlaunches
    simp only [startedTwice, List.mem_cons, List.not_mem_nil, or_false] at hm
    rcases hm with rfl | rfl | rfl | rfl | rfl | rfl
    · exact absurd (hlaunch.unique (d := "initialize") rfl) (by decide)
    · cases hlaunch
    · exact absurd (hlaunch.unique (d := "initialize") rfl) (by decide)
    · -- the one launch among them names an empty program
      cases harguments
      cases hprogram
      cases hgiven
    · exact absurd (hlaunch.unique (d := "stackTrace") rfl) (by decide)
    · exact absurd (hlaunch.unique (d := "disconnect") rfl) (by decide)
  exact ⟨h, rfl, session_answers_once startedTwice h⟩

end Flowline.Editor
