import Mathlib.Logic.Function.Basic
import Mathlib.Tactic.Lemma
import Flowline.Editor.Watch

/-!
What a collection holds while documents are opened, changed and closed.

What becomes of the entry for a path at one step depends on that step alone, or the step leaves it as
it is (`held_take`). So after a history of steps the entry is that of the last step that counts for
the path, and a watcher that looks at the open documents when it is created is one that has seen them
being opened (`create_eq`).
-/

namespace Flowline.Editor

/-- What an editor promises of its collections. -/
structure Collection.Lawful {C : Type} (k : Collection C) : Prop where
  held_empty (path : String) : k.held k.empty path = none
  held_set (c : C) (p : String) (reports : List Report) (q : String) :
    k.held (k.set c p reports) q = if p = q then some reports else k.held c q
  held_delete (c : C) (p q : String) :
    k.held (k.delete c p) q = if p = q then none else k.held c q

/-- Whether an event counts for a path: it is about the document there, and an opening or a change
is one of a document in the language. -/
def Event.countsFor (path : String) : Event → Bool
  | .opened d | .changed d => d.path == path && d.language == languageId
  | .closed d => d.path == path
  | .disposed => false

/-- The last step that counts for a path. -/
def lastStep (path : String) (steps : List Step) : Option Step :=
  (steps.filter (·.event.countsFor path)).getLast?

/-- The steps of documents that are opened while the setting does not change. -/
def openings (enabled : Bool) (documents : List Document) : List Step :=
  documents.map fun d => ⟨enabled, .opened d⟩

def Step.entry : Step → Option (List Report)
  | ⟨true, .opened d⟩ | ⟨true, .changed d⟩ => some d.reports
  | _ => none

lemma Step.entry_eq_some_iff {s : Step} {reports : List Report} :
    s.entry = some reports ↔
      s.enabled = true ∧ ∃ d, (s.event = .opened d ∨ s.event = .changed d) ∧ reports = d.reports := by
  obtain ⟨enabled, event⟩ := s
  cases enabled <;> cases event <;> simp [Step.entry, eq_comm]

lemma lastStep_cons (path : String) (s : Step) (steps : List Step) :
    lastStep path (s :: steps) =
      (lastStep path steps).or (if s.event.countsFor path then some s else none) := by
  unfold lastStep
  rw [List.filter_cons]
  split
  · rw [List.getLast?_cons]
    cases (steps.filter (·.event.countsFor path)).getLast? <;> rfl
  · rw [Option.or_none]

section

variable {C : Type} {k : Collection C}

/-- What a look at a document does to the entries: it changes the one at its path, if the document is
in the language. -/
lemma held_look (hk : k.Lawful) (enabled : Bool) (d : Document) (c : C) (path : String) :
    k.held ((d.look enabled).foldl (k.apply d.path) c) path =
      if (d.path == path && d.language == languageId) = true then
        if enabled then some d.reports else none
      else k.held c path := by
  unfold Document.look
  by_cases hlanguage : d.language = languageId
  · cases enabled <;> simp [hlanguage, Collection.apply, hk.held_set, hk.held_delete]
  · simp [hlanguage]

lemma held_withdraw (hk : k.Lawful) (p : String) (c : C) (path : String) :
    k.held (k.apply p c .withdraw) path = if (p == path) = true then none else k.held c path := by
  simp [Collection.apply, hk.held_delete]

/-- What one step does to the entries of a watcher that is not disposed of. -/
lemma held_take (hk : k.Lawful) {w : Watcher C} (hw : w.alive = true) {s : Step}
    (hs : s.event ≠ .disposed) (path : String) :
    (w.take k s).alive = true ∧
      k.held (w.take k s).collection path =
        if s.event.countsFor path then s.entry else k.held w.collection path := by
  obtain ⟨alive, c⟩ := w
  obtain rfl : alive = true := hw
  obtain ⟨enabled, event⟩ := s
  cases event with
  | opened d =>
    refine ⟨rfl, (held_look hk enabled d c path).trans ?_⟩
    cases enabled <;> rfl
  | changed d =>
    refine ⟨rfl, (held_look hk enabled d c path).trans ?_⟩
    cases enabled <;> rfl
  | closed d =>
    refine ⟨rfl, (held_withdraw hk d.path c path).trans ?_⟩
    cases enabled <;> rfl
  | disposed => exact absurd rfl hs

lemma held_takeAll (hk : k.Lawful) {steps : List Step} (hsteps : ∀ s ∈ steps, s.event ≠ .disposed)
    {w : Watcher C} (hw : w.alive = true) (path : String) :
    (w.takeAll k steps).alive = true ∧
      k.held (w.takeAll k steps).collection path =
        ((lastStep path steps).map Step.entry).getD (k.held w.collection path) := by
  induction steps generalizing w with
  | nil => exact ⟨hw, rfl⟩
  | cons s steps ih =>
    rw [List.forall_mem_cons] at hsteps
    obtain ⟨halive, hheld⟩ := held_take hk hw hsteps.1 path
    obtain ⟨halive', hrest⟩ := ih hsteps.2 halive
    refine ⟨halive', hrest.trans ?_⟩
    rw [hheld, lastStep_cons]
    -- a later step that counts hides this one
    cases lastStep path steps with
    | none => split <;> rfl
    | some last => rfl

lemma create_eq (enabled : Bool) (documents : List Document) :
    Watcher.create k enabled documents =
      Watcher.takeAll k ⟨true, k.empty⟩ (openings enabled documents) := by
  have hfold (c : C) :
      (⟨true, documents.foldl (fun c d => (d.look enabled).foldl (k.apply d.path) c) c⟩ :
        Watcher C) = Watcher.takeAll k ⟨true, c⟩ (openings enabled documents) := by
    induction documents generalizing c with
    | nil => rfl
    | cons d documents ih => exact ih _
  exact hfold k.empty

lemma openings_ne_disposed {enabled : Bool} {documents : List Document} {s : Step}
    (hs : s ∈ openings enabled documents) : s.event ≠ .disposed := by
  obtain ⟨d, -, rfl⟩ := List.mem_map.mp hs
  exact nofun

lemma held_create_takeAll (hk : k.Lawful) (enabled : Bool) (documents : List Document)
    {steps : List Step} (hsteps : ∀ s ∈ steps, s.event ≠ .disposed) (path : String) :
    ((Watcher.create k enabled documents).takeAll k steps).alive = true ∧
      k.held ((Watcher.create k enabled documents).takeAll k steps).collection path =
        (lastStep path (openings enabled documents ++ steps)).bind Step.entry := by
  have hall : ∀ s ∈ openings enabled documents ++ steps, s.event ≠ .disposed := by
    intro s hs
    rcases List.mem_append.mp hs with hopen | hstep
    · exact openings_ne_disposed hopen
    · exact hsteps s hstep
  have hjoined : (Watcher.create k enabled documents).takeAll k steps =
      Watcher.takeAll k ⟨true, k.empty⟩ (openings enabled documents ++ steps) := by
    rw [create_eq, Watcher.takeAll, Watcher.takeAll, Watcher.takeAll, List.foldl_append]
  obtain ⟨halive, hheld⟩ := held_takeAll hk hall (w := ⟨true, k.empty⟩) rfl path
  rw [hjoined]
  refine ⟨halive, hheld.trans ?_⟩
  rw [hk.held_empty]
  cases lastStep path (openings enabled documents ++ steps) <;> rfl

lemma watch_of_not_alive (enabled : Bool) {e : Event} (he : e ≠ .disposed) :
    watch enabled false e = (false, []) := by
  cases e with
  | opened | changed | closed => rfl
  | disposed => exact absurd rfl he

lemma takeAll_of_not_alive {w : Watcher C} (hw : w.alive = false) {steps : List Step}
    (hsteps : ∀ s ∈ steps, s.event ≠ .disposed) : w.takeAll k steps = w := by
  induction steps with
  | nil => rfl
  | cons s steps ih =>
    rw [List.forall_mem_cons] at hsteps
    have hsame : w.take k s = w := by
      obtain ⟨alive, c⟩ := w
      obtain rfl : alive = false := hw
      simp only [Watcher.take, watch_of_not_alive s.enabled hsteps.1, List.foldl_nil]
    calc w.takeAll k (s :: steps) = (w.take k s).takeAll k steps := rfl
      _ = w.takeAll k steps := by rw [hsame]
      _ = w := ih hsteps.2

/-- The collection of a watcher follows the documents. It holds an entry for a path exactly if the
last step that counts for the path was an opening or a change while diagnostics were enabled, and the
entry is the reports of that very document; a closing removes it; once the watcher has been disposed
of, no event does anything. -/
structure FollowsDocuments (k : Collection C) (history : List Step) (w : Watcher C) : Prop where
  held_iff : ∀ path reports, k.held w.collection path = some reports ↔
    ∃ s d, lastStep path history = some s ∧ s.enabled = true ∧
      (s.event = .opened d ∨ s.event = .changed d) ∧ reports = d.reports
  closed : ∀ enabled d, k.held (w.take k ⟨enabled, .closed d⟩).collection d.path = none
  disposed : ∀ enabled later, (∀ s ∈ later, s.event ≠ .disposed) →
    (w.take k ⟨enabled, .disposed⟩).takeAll k later = w.take k ⟨enabled, .disposed⟩ ∧
      ∀ s ∈ later, (watch s.enabled (w.take k ⟨enabled, .disposed⟩).alive s.event).2 = []

/-- Being open when the watcher is created counts as being opened then. -/
theorem collection_follows_documents (hk : k.Lawful) (enabled : Bool) (documents : List Document)
    (steps : List Step) (hsteps : ∀ s ∈ steps, s.event ≠ .disposed) :
    FollowsDocuments k (openings enabled documents ++ steps)
      ((Watcher.create k enabled documents).takeAll k steps) where
  held_iff path reports := by
    rw [(held_create_takeAll hk enabled documents hsteps path).2, Option.bind_eq_some_iff]
    constructor
    · rintro ⟨s, hlast, hentry⟩
      obtain ⟨henabled, d, hevent, hreports⟩ := Step.entry_eq_some_iff.mp hentry
      exact ⟨s, d, hlast, henabled, hevent, hreports⟩
    · rintro ⟨s, d, hlast, henabled, hevent, hreports⟩
      exact ⟨s, hlast, Step.entry_eq_some_iff.mpr ⟨henabled, d, hevent, hreports⟩⟩
  closed b d := by
    have halive := (held_create_takeAll hk enabled documents hsteps d.path).1
    have hcounts : (Event.closed d).countsFor d.path = true := beq_self_eq_true d.path
    rw [(held_take hk halive (s := ⟨b, .closed d⟩) nofun d.path).2, if_pos hcounts]
    cases b <;> rfl
  disposed b later hlater :=
    ⟨takeAll_of_not_alive rfl hlater, fun s hs =>
      congrArg Prod.snd (watch_of_not_alive s.enabled (hlater s hs))⟩

end

def entryTable : Collection (String → Option (List Report)) where
  empty _ := none
  held table path := table path
  set table path reports := Function.update table path (some reports)
  delete table path := Function.update table path none
  dispose _ _ := none

lemma entryTable_lawful : entryTable.Lawful where
  held_empty _ := rfl
  held_set table p reports q := by
    simp [entryTable, Function.update_apply, eq_comm]
  held_delete table p q := by
    simp [entryTable, Function.update_apply, eq_comm]

/-- A document that is open from the beginning and changed while diagnostics are off and then on;
after that a text in another language is opened at its path, and a document elsewhere is opened and
closed. -/
def edited : List Step :=
  [⟨false, .changed (.ofText "end")⟩, ⟨true, .changed (.ofText "if True:")⟩,
    ⟨true, .opened { Document.ofText "end" with language := "plaintext" }⟩,
    ⟨true, .opened { Document.ofText "end" with path := "/other.cat" }⟩,
    ⟨false, .closed { Document.ofText "end" with path := "/other.cat" }⟩]

theorem edited_followed :
    entryTable.Lawful ∧ (∀ s ∈ edited, s.event ≠ .disposed) ∧
      FollowsDocuments entryTable (openings true [.ofText "pass"] ++ edited)
        ((Watcher.create entryTable true [.ofText "pass"]).takeAll entryTable edited) ∧
      entryTable.held ((Watcher.create entryTable true [.ofText "pass"]).takeAll entryTable
        edited).collection "/doc.cat" = some (Document.ofText "if True:").reports := by
  have hsteps : ∀ s ∈ edited, s.event ≠ .disposed := by simp [edited]
  have hfollows := collection_follows_documents entryTable_lawful true [.ofText "pass"] edited hsteps
  refine ⟨entryTable_lawful, hsteps, hfollows, (hfollows.held_iff _ _).mpr ?_⟩
  exact ⟨⟨true, .changed (.ofText "if True:")⟩, _, rfl, rfl, .inr rfl, rfl⟩

end Flowline.Editor
