import Flowline.Editor.Navigation

/-!
# Keeping diagnostics up to date

The watcher analyses documents of the language when they are opened or changed and publishes what
it finds; when a document is closed, or the setting is off, it withdraws it. After it has been
disposed of nothing happens any more.

The published reports are in a collection that the editor keeps; of it only the operations are used.
-/

namespace Flowline.Editor

structure Report where
  range : Range
  message : String
  severity : Severity
deriving DecidableEq, Repr

def reportSource : String := languageId

def Document.report (d : Document) (x : Diagnostic) : Report :=
  let line := x.line - 1
  let text := d.lineD (min line (d.lines.length - 1))
  let (a, b) := x.columns.getD (0, Text.units text)
  ⟨.between ⟨line, a⟩ ⟨line, b⟩, x.message, x.severity⟩

def Document.reports (d : Document) : List Report := d.analysis.diagnostics.map d.report

inductive Event
  | opened (document : Document)
  | changed (document : Document)
  | closed (document : Document)
  | disposed
deriving DecidableEq, Repr

/-- What the watcher does to the published reports and its subscriptions. -/
inductive Effect
  | publish (reports : List Report)
  | withdraw
  | dispose
  | unsubscribe (event : String)
deriving DecidableEq, Repr

def Document.look (enabled : Bool) (d : Document) : List Effect :=
  if d.language != languageId then []
  else if enabled then [.publish d.reports]
  else [.withdraw]

/-- What the watcher does at an event, given whether it is still alive; also whether it is after
it. -/
def watch (enabled alive : Bool) (e : Event) : Bool × List Effect :=
  match e with
  | .disposed =>
    (false, [.dispose, .unsubscribe "open", .unsubscribe "change", .unsubscribe "close"])
  | .opened d | .changed d => (alive, if alive then d.look enabled else [])
  | .closed _ => (alive, if alive then [.withdraw] else [])

/-! ## Collections of reports -/

/-- A collection that an editor keeps, with the reports that it holds for a path. -/
structure Collection (C : Type) where
  empty : C
  held : C → String → Option (List Report)
  set : C → String → List Report → C
  delete : C → String → C
  dispose : C → C

def Event.path : Event → String
  | .opened d | .changed d | .closed d => d.path
  | .disposed => ""

/-- An event, and whether diagnostics are enabled when it happens. -/
structure Step where
  enabled : Bool
  event : Event
deriving DecidableEq, Repr

structure Watcher (C : Type) where
  alive : Bool
  collection : C

section

variable {C : Type} (k : Collection C)

def Collection.apply (path : String) (c : C) : Effect → C
  | .publish reports => k.set c path reports
  | .withdraw => k.delete c path
  | .dispose => k.dispose c
  | .unsubscribe _ => c

/-- A new watcher has looked at the documents that are open. -/
def Watcher.create (enabled : Bool) (documents : List Document) : Watcher C :=
  ⟨true, documents.foldl (fun c d => (d.look enabled).foldl (k.apply d.path) c) k.empty⟩

def Watcher.take (w : Watcher C) (s : Step) : Watcher C :=
  let (alive, effects) := watch s.enabled w.alive s.event
  ⟨alive, effects.foldl (k.apply s.event.path) w.collection⟩

def Watcher.takeAll (w : Watcher C) (steps : List Step) : Watcher C := steps.foldl (·.take k) w

end

end Flowline.Editor
