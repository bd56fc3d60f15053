import Flowline.Loose.Compile
import Flowline.Proofs.Indentation

/-!
Trees that come as data are compiled as the programs they stand for.

Data are compiled node by node: a program hands the indentation from flow to flow, a flow from
segment to segment, a segment from statement to statement. A program is compiled as one list of
statements. The two agree because a run over a list of nodes is the run over the statements in them,
and this is the same argument on all floors of a tree.
-/

namespace Flowline

lemma passed_le (i : Indent) (ss : List Statement) : (emitAll i ss).passed ≤ ss.length := by
  induction ss generalizing i with
  | nil => exact Nat.le_refl _
  | cons s ss ih =>
    simp only [emitAll, List.length_cons]
    rcases s.emit i with ⟨j, e | line⟩
    · exact Nat.zero_le _
    · exact Nat.succ_le_succ (ih j)

lemma passed_of_accepted {i : Indent} {ss : List Statement} (h : (emitAll i ss).refused = none) :
    (emitAll i ss).passed = ss.length := by
  induction ss generalizing i with
  | nil => rfl
  | cons s ss ih =>
    simp only [emitAll, List.length_cons] at h ⊢
    rcases hs : s.emit i with ⟨j, e | line⟩
    · simp [hs] at h
    · rw [hs] at h
      exact congrArg (· + 1) (ih h)

namespace Loose

def outcomeOf (e : Emission) : Except Fault (List String) :=
  match e.refused with
  | none => .ok e.lines
  | some r => .error (.emit r)

/-! ### One floor of a tree -/

/-- A kind of node: how it is written as data, which statements it holds, and what becomes of it
when the first `k` of them have been compiled. -/
structure Floor (β : Type) where
  datum : β → Datum
  held : β → List Statement
  settled : Nat → β → β
  settled_zero : ∀ b, settled 0 b = b
  settled_add : ∀ b k, settled ((held b).length + k) b = settled (held b).length b

namespace Floor

variable {β : Type} (F : Floor β)

def settledAll : Nat → List β → List β
  | _, [] => []
  | k, b :: bs => F.settled k b :: settledAll (k - (F.held b).length) bs

lemma settledAll_zero (bs : List β) : F.settledAll 0 bs = bs := by
  induction bs with
  | nil => rfl
  | cons b bs ih => rw [settledAll, F.settled_zero, Nat.zero_sub, ih]

lemma settledAll_add (bs : List β) (k : Nat) :
    F.settledAll ((bs.flatMap F.held).length + k) bs =
      F.settledAll (bs.flatMap F.held).length bs := by
  induction bs with
  | nil => rfl
  | cons b bs ih =>
    simp only [settledAll, List.flatMap_cons, List.length_append, Nat.add_assoc, F.settled_add,
      Nat.add_sub_cancel_left, ih]

def above (name children : String) : Floor (List β) where
  datum bs := .record [("type", .text name), (children, .list (bs.map F.datum))]
  held bs := bs.flatMap F.held
  settled := F.settledAll
  settled_zero := F.settledAll_zero
  settled_add := F.settledAll_add

/-- Nodes are compiled as the statements in them. -/
def CompiledBy (each : Indent → Datum → Outcome) : Prop :=
  ∀ i b, each i (F.datum b) =
    ⟨(emitAll i (F.held b)).indent, F.datum (F.settled (emitAll i (F.held b)).passed b),
      outcomeOf (emitAll i (F.held b))⟩

variable {F}

/-- A list of nodes is compiled as the statements in all of them. -/
lemma CompiledBy.sequence {each : Indent → Datum → Outcome} (h : F.CompiledBy each) (i : Indent)
    (bs : List β) :
    Loose.sequence each i (bs.map F.datum) =
      ((emitAll i (bs.flatMap F.held)).indent,
        (F.settledAll (emitAll i (bs.flatMap F.held)).passed bs).map F.datum,
        outcomeOf (emitAll i (bs.flatMap F.held))) := by
  induction bs generalizing i with
  | nil => rfl
  | cons b bs ih =>
    rw [List.map_cons, List.flatMap_cons, emitAll_append]
    simp only [Loose.sequence, h i b]
    rcases hr : (emitAll i (F.held b)).refused with _ | r
    · -- the rest starts with the indentation that the node has left
      have hpassed := passed_of_accepted hr
      simp only [outcomeOf, hr, ih, Emission.andThen, settledAll, hpassed, F.settled_add,
        Nat.add_sub_cancel_left, List.map_cons]
      rcases (emitAll (emitAll i (F.held b)).indent (bs.flatMap F.held)).refused with _ | r <;> rfl
    · have hle := passed_le i (F.held b)
      simp only [outcomeOf, hr, Emission.andThen, settledAll, Nat.sub_eq_zero_of_le hle,
        settledAll_zero, List.map_cons]

/-- What holds on a floor holds on the floor above. -/
lemma CompiledBy.above {each : Indent → Datum → Outcome} (h : F.CompiledBy each)
    (name children : String) (refusal : EmitError) (hc : children ≠ "type") :
    (F.above name children).CompiledBy (container name children refusal each) := by
  intro i bs
  have hlookup : (children == "type") = false := by simpa using hc
  have hlookup' : ("type" == children) = false := by simpa using hc.symm
  simp only [container, Floor.above, Record.getD, Record.get?, Record.put, List.lookup_cons,
    hlookup, hlookup', beq_self_eq_true, Option.getD_some, isKind, Datum.text?, decide_true,
    Bool.not_true, Bool.false_eq_true, if_false, h.sequence i bs, if_true]

end Floor

/-! ### The floors of a program -/

def ground : Floor Statement where
  datum := Statement.toDatum
  held s := [s]
  settled k s := if k = 0 then s else s.settle
  settled_zero _ := rfl
  settled_add s k := by
    have hk : [s].length + k ≠ 0 := by simp
    simp only [hk, if_false]
    rfl

def settledArgs : Action → List String → List String
  | .if_, args | .elif, args | .while_, args => settleArgs args
  | _, args => args

lemma settle_line (action : Action) (args : List String) (state : String) :
    Statement.settle (.line action args state) = .line action (settledArgs action args) state := by
  cases action <;> rfl

lemma write_ofWords (i : Indent) (action : Action) (args : List String) :
    write i action (.ofWords args) =
      match i.write action args with
      | (j, .ok text) => (j, .ofWords (settledArgs action args), .ok text)
      | (j, .error e) => (j, .ofWords args, .error (.emit e)) := by
  unfold write
  rw [Datum.words?_ofWords]
  simp only [settle_line]
  rcases i.write action args with ⟨j, e | text⟩ <;> rfl

lemma actionOf_line (action : Action) (args : List String) (state : String) :
    actionOf (Statement.line action args state).toDatum = some action :=
  action.ofId?_id

/-- The data of a line are written as the line. -/
lemma line_toDatum (i : Indent) (action : Action) (args : List String) (state : String) :
    line i (Statement.line action args state).toDatum =
      match i.write action args with
      | (j, .ok text) =>
        ⟨j, (Statement.line action (settledArgs action args) state).toDatum, .ok [text]⟩
      | (j, .error e) => ⟨j, (Statement.line action args state).toDatum, .error (.emit e)⟩ := by
  have hline : line i (Statement.line action args state).toDatum =
      ⟨(write i action (.ofWords args)).1,
        .record [("type", .text "Line"), ("action", .text action.id),
          ("args", (write i action (.ofWords args)).2.1), ("line_state", .text state)],
        (write i action (.ofWords args)).2.2.map ([·])⟩ := by
    have haction := actionOf_line action args state
    simp only [Statement.toDatum] at haction ⊢
    simp only [line, haction]
    rfl
  rw [hline, write_ofWords]
  rcases i.write action args with ⟨j, e | text⟩ <;> rfl

lemma chainedLine_toDatum (i : Indent) (action : Action) (args : List String) (state : String) :
    chainedLine i (Statement.line action args state).toDatum =
      line (i.forAction action) (Statement.line action args state).toDatum := by
  have haction := actionOf_line action args state
  simp only [Statement.toDatum] at haction ⊢
  simp only [chainedLine, haction]

lemma ground_compiledBy : ground.CompiledBy statement := by
  intro i s
  cases s with
  | line action args state =>
    have hkind : kind (Statement.line action args state).toDatum = .ok (.text "Line") := rfl
    simp only [ground, emitAll, Statement.emit, settle_line, statement, hkind,
      chainedLine_toDatum, line_toDatum]
    rcases (i.forAction action).write action args with ⟨j, e | text⟩ <;> rfl
  | block name state => rfl
  | blockEnd state => rfl
  | arrow source target direction state => rfl

def segmentFloor : Floor (List Statement) := ground.above "Segment" "lines"

def flowFloor : Floor (List (List Statement)) := segmentFloor.above "Flow" "segments"

def programFloor : Floor (List (List (List Statement))) := flowFloor.above "Program" "flows"

lemma program_compiledBy :
    programFloor.CompiledBy (container "Program" "flows" .notProgram flow) := by
  have hsegment : segmentFloor.CompiledBy segment := ground_compiledBy.above _ _ _ (by decide)
  have hflow : flowFloor.CompiledBy flow := hsegment.above _ _ _ (by decide)
  exact hflow.above _ _ _ (by decide)

lemma held_segment (ss : List Statement) : segmentFloor.held ss = ss := by
  simp [segmentFloor, Floor.above, ground]

lemma held_flow (segments : List (List Statement)) :
    flowFloor.held segments = segments.flatten := by
  have hsegment : segmentFloor.held = id := funext held_segment
  simp [flowFloor, Floor.above, hsegment]

lemma held_program (flows : List (List (List Statement))) :
    programFloor.held flows = flows.flatten.flatten := by
  have hflow : flowFloor.held = List.flatten := funext held_flow
  rw [List.flatten_flatten, ← List.flatMap_def, ← hflow]
  rfl

lemma settled_segment (k : Nat) (ss : List Statement) :
    segmentFloor.settled k ss = (ss.take k).map Statement.settle ++ ss.drop k := by
  have hsettled (k : Nat) (ss : List Statement) :
      segmentFloor.settled k ss = ground.settledAll k ss := rfl
  induction ss generalizing k with
  | nil => simp [hsettled, Floor.settledAll]
  | cons s ss ih =>
    rw [hsettled, Floor.settledAll, ← hsettled, ih]
    cases k with
    | zero => simp [ground]
    | succ k => simp [ground]

lemma settled_flow (k : Nat) (segments : List (List Statement)) :
    flowFloor.settled k segments = mapFirst Statement.settle k segments := by
  have hsettled (k : Nat) (gs : List (List Statement)) :
      flowFloor.settled k gs = segmentFloor.settledAll k gs := rfl
  induction segments generalizing k with
  | nil => rfl
  | cons g gs ih =>
    rw [hsettled, Floor.settledAll, ← hsettled, ih, settled_segment, held_segment, mapFirst]

lemma settled_program (k : Nat) (flows : List (List (List Statement))) :
    programFloor.settled k flows = Program.mapFirst.go Statement.settle k flows := by
  have hsettled (k : Nat) (fs : List (List (List Statement))) :
      programFloor.settled k fs = flowFloor.settledAll k fs := rfl
  induction flows generalizing k with
  | nil => rfl
  | cons f fs ih =>
    rw [hsettled, Floor.settledAll, ← hsettled, ih, settled_flow, held_flow, Program.mapFirst.go]

lemma datum_program (flows : List (List (List Statement))) :
    programFloor.datum flows = (⟨flows⟩ : Program Statement).toDatum Statement.toDatum := by
  simp [programFloor, flowFloor, segmentFloor, Floor.above, ground, Program.toDatum]

/-- **Loose trees**: the data of a program are compiled as the program, and left as compiling leaves
the program. -/
theorem compile_toDatum (p : Program Statement) :
    compile (p.toDatum Statement.toDatum) =
      (p.compile.tree.toDatum Statement.toDatum, p.compile.code.mapError .emit) := by
  have hrun := program_compiledBy {} p.flows
  rw [held_program, settled_program, datum_program, datum_program] at hrun
  simp only [compile, hrun, Program.compile, Program.statements, Program.mapFirst, outcomeOf]
  rcases (emitAll {} p.flows.flatten.flatten).refused with _ | r <;> rfl

end Loose

end Flowline
