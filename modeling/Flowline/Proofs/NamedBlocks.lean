import Flowline.Proofs.Concatenation

/-!
Named blocks and the indentation.

The head of a named block writes nothing and goes no level further in, but its end goes one level out
like any other block end. So what comes after a named block is compiled one level too far out, unless
there is no such level. Two things make up for it: block ends that use up the levels before the next
line comes, and a later clause that follows directly and would have gone out by itself.

The two programs are compiled side by side (`Beside`). From the first line on that stands further out
in one of them, no later line stands further in there, so the texts are different for good.
-/

namespace Flowline

/-! ### Statements that are nested well -/

mutual

/-- Whole statements, one after the other: lines without a body, arrows, named blocks and compound
statements, each with its end. -/
inductive WellNested : List Statement → Prop
  | nil : WellNested []
  | line {a : Action} {args : List String} {state : String} {next : List Statement}
      (simple : a ∈ simpleActions) (hnext : WellNested next) :
      WellNested (.line a args state :: next)
  | arrow {source target : String} {direction : Direction} {state : String}
      {next : List Statement} (hnext : WellNested next) :
      WellNested (.arrow source target direction state :: next)
  | block {name state mark : String} {body next : List Statement} (hbody : WellNested body)
      (hnext : WellNested next) :
      WellNested (.block name state :: (body ++ .blockEnd mark :: next))
  | compound {shape : Shape} {a : Action} {args : List String} {state : String}
      {body rest next : List Statement} (opens : Shape.opening a = some shape)
      (hbody : WellNested body) (hrest : WellChained shape rest) (hnext : WellNested next) :
      WellNested (.line a args state :: (body ++ (rest ++ next)))

/-- The rest of a chain after the body of a clause; the block end of an earlier clause may be left
out. -/
inductive WellChained : Shape → List Statement → Prop
  | done {shape : Shape} {mark : String} : WellChained shape [.blockEnd mark]
  | clause {shape rest : Shape} (closing : Option String) {a : Action} {args : List String}
      {state : String} {body more : List Statement} (adds : shape.adding a = some rest)
      (hbody : WellNested body) (hmore : WellChained rest more) :
      WellChained shape
        ((closing.map Statement.blockEnd).toList ++ .line a args state :: (body ++ more))

end

mutual

lemma Body.wellNested (b : Body) : WellNested b.statements := by
  cases b with
  | nil => exact .nil
  | line l simple next => exact .line simple next.wellNested
  | compound shape head opens body rest next =>
    exact .compound opens body.wellNested rest.wellChained next.wellNested

lemma Clauses.wellChained {s : Shape} (c : Clauses s) : WellChained s c.statements := by
  cases c with
  | done mark => exact .done
  | clause closing head adds body more =>
    exact .clause closing adds body.wellNested more.wellChained

end

/-- No later clause comes where a named block has just begun. `begun` says whether something stands
before the statements that a clause could belong to. -/
def Orderly (begun : Bool) : List Statement → Prop
  | [] => True
  | .line a _ _ :: ss => (a.continuesChain = true → begun = true) ∧ Orderly true ss
  | .block _ _ :: ss => Orderly false ss
  | .blockEnd _ :: ss => Orderly true ss
  | .arrow _ _ _ _ :: ss => Orderly begun ss

lemma Orderly.of_false {ss : List Statement} (h : Orderly false ss) (begun : Bool) :
    Orderly begun ss := by
  induction ss with
  | nil => trivial
  | cons s ss ih =>
    cases s with
    | line a args state => exact ⟨fun ha => absurd (h.1 ha) (by decide), h.2⟩
    | block name state => exact h
    | blockEnd state => exact h
    | arrow source target direction state => exact ih h

lemma Orderly.to_true {begun : Bool} {ss : List Statement} (h : Orderly begun ss) :
    Orderly true ss := by
  cases begun with
  | false => exact h.of_false true
  | true => exact h

lemma Orderly.suffix {begun : Bool} {ss ts : List Statement} (h : Orderly begun (ss ++ ts)) :
    Orderly true ts := by
  induction ss generalizing begun with
  | nil => exact h.to_true
  | cons s ss ih =>
    cases s with
    | line a args state => exact ih h.2
    | block name state => exact ih h
    | blockEnd state => exact ih h
    | arrow source target direction state => exact ih h

mutual

/-- Well nested statements put no clause where none may be, and leave no such place behind. -/
lemma WellNested.orderly_append {ss : List Statement} (h : WellNested ss) (begun : Bool)
    (ts : List Statement) (hts : Orderly begun ts) : Orderly begun (ss ++ ts) :=
  match h with
  | .nil => hts
  | .line simple hnext => by
    have hcont := (simple_opens simple).2
    exact ⟨fun ha => absurd ha (by simp [hcont]), hnext.orderly_append true ts hts.to_true⟩
  | .arrow hnext => hnext.orderly_append begun ts hts
  | @WellNested.block _ _ mark _ next hbody hnext => by
    have hrest := hnext.orderly_append true ts hts.to_true
    have hend := hbody.orderly_append false (.blockEnd mark :: (next ++ ts)) hrest
    simpa [Orderly] using hend
  | .compound opens hbody hrest hnext => by
    have hcont := (Shape.opening_opens opens).2
    refine ⟨fun ha => absurd ha (by simp [hcont]), ?_⟩
    have hlast := hnext.orderly_append true ts hts.to_true
    have hall := hbody.orderly_append true _ (hrest.orderly_append _ hlast)
    simpa using hall

lemma WellChained.orderly_append {shape : Shape} {ss : List Statement} (h : WellChained shape ss)
    (ts : List Statement) (hts : Orderly true ts) : Orderly true (ss ++ ts) :=
  match h with
  | .done => hts
  | .clause closing adds hbody hmore => by
    have hall := hbody.orderly_append true _ (hmore.orderly_append ts hts)
    cases closing with
    | none => exact ⟨fun _ => rfl, by simpa using hall⟩
    | some mark => exact ⟨fun _ => rfl, by simpa using hall⟩

end

lemma WellNested.orderly {ss : List Statement} (h : WellNested ss) : Orderly false ss := by
  have happend := h.orderly_append false [] trivial
  rwa [List.append_nil] at happend

/-! ### Refusals -/

lemma refused_eq (i j : Indent) (ss : List Statement) :
    (emitAll i ss).refused = (emitAll j ss).refused := by
  induction ss generalizing i j with
  | nil => rfl
  | cons s ss ih =>
    cases s with
    | line a args state =>
      rcases hcode : a.code args with e | text
      · simp [emitAll, Statement.emit, Indent.write, hcode]
      · simpa [emitAll, Statement.emit, Indent.write, hcode] using ih _ _
    | block name state => exact ih _ _
    | blockEnd state => exact ih _ _
    | arrow source target direction state => exact ih _ _

lemma refused_append (i : Indent) (ss ts : List Statement) :
    (emitAll i (ss ++ ts)).refused = (emitAll i ss).refused.or (emitAll i ts).refused := by
  rw [emitAll_append, Emission.andThen]
  rcases hss : (emitAll i ss).refused with _ | e
  · exact refused_eq _ _ ts
  · exact hss

def wrapped (name state mark : String) (run : List Statement) : List Statement :=
  .block name state :: (run ++ [.blockEnd mark])

lemma refused_wrapped (i : Indent) (name state mark : String) (run : List Statement) :
    (emitAll i (wrapped name state mark run)).refused = (emitAll i run).refused := by
  have hhead : (emitAll i (wrapped name state mark run)).refused =
      (emitAll ⟨i.level, false⟩ (run ++ [.blockEnd mark])).refused := rfl
  rw [hhead, refused_append, refused_eq _ i run]
  exact Option.or_none

lemma exists_codeLine {i : Indent} {a : Action} {args : List String} {state : String}
    {ss : List Statement} (h : (emitAll i (.line a args state :: ss)).refused = none) :
    ∃ l : CodeLine, l.statement = .line a args state ∧ ∀ j, (emitAll j ss).refused = none := by
  rcases hcode : a.code args with e | text
  · simp [emitAll, Statement.emit, Indent.write, hcode] at h
  · refine ⟨⟨a, args, state, text, hcode⟩, rfl, fun j => ?_⟩
    rw [refused_eq j]
    exact refused_of_emits (emits_line i ⟨a, args, state, text, hcode⟩) h

/-! ### Two runs side by side -/

/-- Statements compiled from two indentations: the lines are the same, the levels may differ. -/
structure Beside (i i' : Indent) (ss : List Statement) (rs rs' : List Row) : Prop where
  first : ∃ j, Emits i ss j rs
  second : ∃ j, Emits i' ss j rs'
  lines : rs'.map Row.line = rs.map Row.line

def Indent.levelFor (i : Indent) (a : Action) : Nat := (i.forAction a).level

def Indent.after (i : Indent) (a : Action) : Indent :=
  ⟨i.levelFor a + (if a.opensBlock then 1 else 0), false⟩

lemma emits_block (i : Indent) (name state : String) :
    Emits i [.block name state] ⟨i.level, false⟩ [] := rfl

lemma emits_arrow (i : Indent) (source target : String) (direction : Direction) (state : String) :
    Emits i [.arrow source target direction state] i [] := rfl

lemma emits_after (i : Indent) (l : CodeLine) :
    Emits i [l.statement] (i.after l.action) [⟨i.levelFor l.action, l⟩] := emits_line i l

lemma Beside.quiet {s : Statement} {ss : List Statement} {i i' j j' : Indent} {rs rs' : List Row}
    (hi : Emits i [s] j []) (hi' : Emits i' [s] j' []) (h : Beside j j' ss rs rs') :
    Beside i i' (s :: ss) rs rs' := by
  obtain ⟨⟨k, hk⟩, ⟨k', hk'⟩, hlines⟩ := h
  exact ⟨⟨k, hi.cons hk⟩, ⟨k', hi'.cons hk'⟩, hlines⟩

lemma Beside.line {l : CodeLine} {ss : List Statement} {i i' : Indent} {rs rs' : List Row}
    (h : Beside (i.after l.action) (i'.after l.action) ss rs rs') :
    Beside i i' (l.statement :: ss) (⟨i.levelFor l.action, l⟩ :: rs)
      (⟨i'.levelFor l.action, l⟩ :: rs') := by
  obtain ⟨⟨k, hk⟩, ⟨k', hk'⟩, hlines⟩ := h
  refine ⟨⟨k, (emits_after i l).cons hk⟩, ⟨k', (emits_after i' l).cons hk'⟩, ?_⟩
  rw [List.map_cons, List.map_cons, hlines]

lemma levelFor_mono {i i' : Indent} (hlevel : i'.level ≤ i.level)
    (hflag : i'.afterEnd = i.afterEnd) (a : Action) : i'.levelFor a ≤ i.levelFor a := by
  unfold Indent.levelFor Indent.forAction Indent.shallower
  rw [hflag]
  split_ifs
  · exact Nat.sub_le_sub_right hlevel 1
  · exact hlevel

/-- What begins further out stays further out, as long as both runs know the same of block ends. -/
lemma exists_beside_of_le {ss : List Statement} {i i' : Indent} (hlevel : i'.level ≤ i.level)
    (hflag : i'.afterEnd = i.afterEnd) (h : (emitAll i ss).refused = none) :
    ∃ rs rs', Beside i i' ss rs rs' ∧ depth rs' ≤ depth rs := by
  induction ss generalizing i i' with
  | nil => exact ⟨[], [], ⟨⟨i, .nil i⟩, ⟨i', .nil i'⟩, rfl⟩, le_rfl⟩
  | cons s ss ih =>
    cases s with
    | line a args state =>
      obtain ⟨l, hl, hss⟩ := exists_codeLine h
      have hline := levelFor_mono hlevel hflag l.action
      obtain ⟨rs, rs', hbeside, hdepth⟩ := @ih (i.after l.action) (i'.after l.action)
        (Nat.add_le_add_right hline _) rfl (hss _)
      rw [← hl]
      exact ⟨_, _, hbeside.line, Nat.add_le_add hline hdepth⟩
    | block name state =>
      obtain ⟨rs, rs', hbeside, hdepth⟩ := @ih ⟨i.level, false⟩ ⟨i'.level, false⟩ hlevel rfl h
      exact ⟨rs, rs', .quiet (emits_block ..) (emits_block ..) hbeside, hdepth⟩
    | blockEnd state =>
      obtain ⟨rs, rs', hbeside, hdepth⟩ := @ih ⟨i.level - 1, true⟩ ⟨i'.level - 1, true⟩
        (Nat.sub_le_sub_right hlevel 1) rfl h
      exact ⟨rs, rs', .quiet (emits_blockEnd ..) (emits_blockEnd ..) hbeside, hdepth⟩
    | arrow source target direction state =>
      obtain ⟨rs, rs', hbeside, hdepth⟩ := ih hlevel hflag h
      exact ⟨rs, rs', .quiet (emits_arrow ..) (emits_arrow ..) hbeside, hdepth⟩

/-- Two runs that are the same under a condition; otherwise the second is further out. -/
structure Decided (same : Prop) (rs rs' : List Row) : Prop where
  eq : same → rs' = rs
  lt : ¬ same → depth rs' < depth rs

lemma Decided.congr {same other : Prop} {rs rs' : List Row} (h : Decided same rs rs')
    (hiff : other ↔ same) : Decided other rs rs' :=
  ⟨fun ho => h.eq (hiff.mp ho), fun ho => h.lt fun hs => ho (hiff.mpr hs)⟩

lemma exists_emits_same {l : CodeLine} {ss : List Statement} {i i' : Indent}
    (hlevel : i'.levelFor l.action = i.levelFor l.action)
    (hss : ∀ j, (emitAll j ss).refused = none) :
    ∃ j rs, Emits i (l.statement :: ss) j rs ∧ Emits i' (l.statement :: ss) j rs := by
  obtain ⟨j, rs, hemits, -⟩ := exists_rows (hss (i.after l.action))
  have hfirst := (emits_after i l).cons hemits
  have hsecond := emits_after i' l
  rw [Indent.after, hlevel] at hsecond
  exact ⟨j, _, hfirst, hsecond.cons hemits⟩

/-- At the first line it is decided: if it stands further out, the texts are different. -/
lemma exists_beside_line {l : CodeLine} {ss : List Statement} {i i' : Indent}
    (hlevel : i'.levelFor l.action = i.levelFor l.action - 1)
    (hss : ∀ j, (emitAll j ss).refused = none) :
    ∃ rs rs', Beside i i' (l.statement :: ss) rs rs' ∧
      Decided (i.levelFor l.action = 0) rs rs' := by
  by_cases hzero : i.levelFor l.action = 0
  · have hsame : i'.levelFor l.action = i.levelFor l.action := by omega
    obtain ⟨j, rs, hfirst, hsecond⟩ := exists_emits_same hsame hss
    exact ⟨rs, rs, ⟨⟨j, hfirst⟩, ⟨j, hsecond⟩, rfl⟩, fun _ => rfl, fun hne => absurd hzero hne⟩
  · have hle : (i'.after l.action).level ≤ (i.after l.action).level := by
      simp only [Indent.after, hlevel]
      omega
    obtain ⟨rs, rs', hbeside, hdepth⟩ := exists_beside_of_le hle rfl (hss _)
    refine ⟨_, _, hbeside.line, fun h => absurd h hzero, fun _ => ?_⟩
    simp only [depth_cons]
    omega

def leadingEnds : List Statement → Nat
  | .blockEnd _ :: ss => leadingEnds ss + 1
  | .block _ _ :: ss | .arrow _ _ _ _ :: ss => leadingEnds ss
  | .line _ _ _ :: _ | [] => 0

/-- Whether a later clause comes next, with nothing but arrows before it. -/
def clauseNext : List Statement → Bool
  | .line a _ _ :: _ => a.continuesChain
  | .arrow _ _ _ _ :: ss => clauseNext ss
  | .block _ _ :: _ | .blockEnd _ :: _ | [] => false

def silent (ss : List Statement) : Bool := ss.all fun s => !s.isLine

lemma levelFor_of_ended {i : Indent} {a : Action} (h : a.continuesChain = true → i.afterEnd = true) :
    i.levelFor a = i.level := by
  unfold Indent.levelFor Indent.forAction
  rw [if_neg]
  simpa using h

/-- One level further out, the block ends being known to both: nothing changes if nothing is written,
or if the block ends before the first line lead to the outermost level. -/
lemma exists_beside_shallower {ss : List Statement} {i : Indent} (horderly : Orderly i.afterEnd ss)
    (h : (emitAll i ss).refused = none) :
    ∃ rs rs', Beside i i.shallower ss rs rs' ∧
      Decided (silent ss = true ∨ i.level ≤ leadingEnds ss) rs rs' := by
  induction ss generalizing i with
  | nil =>
    exact ⟨[], [], ⟨⟨i, .nil i⟩, ⟨_, .nil _⟩, rfl⟩, fun _ => rfl, fun hne => absurd (.inl rfl) hne⟩
  | cons s ss ih =>
    cases s with
    | line a args state =>
      obtain ⟨l, hl, hss⟩ := exists_codeLine h
      obtain rfl : l.action = a := (Statement.line.inj hl).1
      -- a later clause has a block end before it here, so it takes no step outwards
      have hi := levelFor_of_ended horderly.1
      have hi' : i.shallower.levelFor l.action = i.level - 1 := levelFor_of_ended horderly.1
      have hlevel : i.shallower.levelFor l.action = i.levelFor l.action - 1 := by rw [hi', hi]
      obtain ⟨rs, rs', hbeside, hdecided⟩ := exists_beside_line hlevel hss
      rw [hl] at hbeside
      refine ⟨rs, rs', hbeside, hdecided.congr ?_⟩
      simp [hi, silent, leadingEnds, Statement.isLine]
    | block name state =>
      obtain ⟨rs, rs', hbeside, hdecided⟩ := @ih ⟨i.level, false⟩ horderly h
      exact ⟨rs, rs', .quiet (emits_block ..) (emits_block ..) hbeside, hdecided⟩
    | blockEnd state =>
      obtain ⟨rs, rs', hbeside, hdecided⟩ := @ih ⟨i.level - 1, true⟩ horderly h
      refine ⟨rs, rs', .quiet (emits_blockEnd ..) (emits_blockEnd ..) hbeside, hdecided.congr ?_⟩
      simp [silent, leadingEnds, Statement.isLine]
    | arrow source target direction state =>
      obtain ⟨rs, rs', hbeside, hdecided⟩ := ih horderly h
      exact ⟨rs, rs', .quiet (emits_arrow ..) (emits_arrow ..) hbeside, hdecided⟩

/-- One level further out because of a block end that the first run does not have. Beside what was
said, nothing changes if a later clause comes next that goes out by itself in the first run. -/
lemma exists_beside_blockEnd {ss : List Statement} {i : Indent} (horderly : Orderly true ss)
    (h : (emitAll i ss).refused = none) :
    ∃ rs rs', Beside i ⟨i.level - 1, true⟩ ss rs rs' ∧
      Decided (silent ss = true ∨ i.level ≤ leadingEnds ss ∨
        (clauseNext ss = true ∧ i.afterEnd = false)) rs rs' := by
  induction ss with
  | nil =>
    exact ⟨[], [], ⟨⟨i, .nil i⟩, ⟨_, .nil _⟩, rfl⟩, fun _ => rfl, fun hne => absurd (.inl rfl) hne⟩
  | cons s ss ih =>
    cases s with
    | line a args state =>
      obtain ⟨l, hl, hss⟩ := exists_codeLine h
      obtain rfl : l.action = a := (Statement.line.inj hl).1
      have hi' : (⟨i.level - 1, true⟩ : Indent).levelFor l.action = i.level - 1 :=
        levelFor_of_ended fun _ => rfl
      by_cases hclause : l.action.continuesChain = true ∧ i.afterEnd = false
      · -- the clause takes the step outwards that the block end would take
        have hi : i.levelFor l.action = i.level - 1 := by
          simp [Indent.levelFor, Indent.forAction, Indent.shallower, hclause.1, hclause.2]
        obtain ⟨j, rs, hfirst, hsecond⟩ := exists_emits_same (hi'.trans hi.symm) hss
        rw [hl] at hfirst hsecond
        exact ⟨rs, rs, ⟨⟨j, hfirst⟩, ⟨j, hsecond⟩, rfl⟩, fun _ => rfl,
          fun hne => absurd (.inr (.inr hclause)) hne⟩
      · -- any other line stands one level further out
        have hi : i.levelFor l.action = i.level := levelFor_of_ended fun ha => by
          simpa [ha] using hclause
        have hlevel : (⟨i.level - 1, true⟩ : Indent).levelFor l.action =
            i.levelFor l.action - 1 := by rw [hi', hi]
        obtain ⟨rs, rs', hbeside, hdecided⟩ := exists_beside_line hlevel hss
        rw [hl] at hbeside
        refine ⟨rs, rs', hbeside, hdecided.congr ?_⟩
        have hnext : ¬ (clauseNext (.line l.action args state :: ss) = true ∧ i.afterEnd = false) :=
          hclause
        simp [hi, silent, leadingEnds, Statement.isLine, hnext]
    | block name state =>
      obtain ⟨rs, rs', hbeside, hdecided⟩ := @exists_beside_shallower ss ⟨i.level, false⟩ horderly h
      refine ⟨rs, rs', .quiet (emits_block ..) (emits_block ..) hbeside, hdecided.congr ?_⟩
      simp [silent, leadingEnds, clauseNext, Statement.isLine]
    | blockEnd state =>
      obtain ⟨rs, rs', hbeside, hdecided⟩ :=
        @exists_beside_shallower ss ⟨i.level - 1, true⟩ horderly h
      refine ⟨rs, rs', .quiet (emits_blockEnd ..) (emits_blockEnd ..) hbeside, hdecided.congr ?_⟩
      simp [silent, leadingEnds, clauseNext, Statement.isLine]
    | arrow source target direction state =>
      obtain ⟨rs, rs', hbeside, hdecided⟩ := ih horderly h
      exact ⟨rs, rs', .quiet (emits_arrow ..) (emits_arrow ..) hbeside, hdecided⟩

/-! ### Programs with a named block more -/

/-- The head of a named block changes nothing for statements that do not begin with a clause. -/
lemma exists_emits_afterBlock {run : List Statement} {i : Indent} (horderly : Orderly false run)
    (h : (emitAll i run).refused = none) :
    ∃ j ended rs, Emits i run j rs ∧ Emits ⟨i.level, false⟩ run ⟨j.level, ended⟩ rs := by
  induction run with
  | nil => exact ⟨i, false, [], .nil i, .nil _⟩
  | cons s ss ih =>
    cases s with
    | line a args state =>
      obtain ⟨l, hl, hss⟩ := exists_codeLine h
      obtain rfl : l.action = a := (Statement.line.inj hl).1
      have hno : l.action.continuesChain = true → false = true := horderly.1
      have hi : i.levelFor l.action = i.level := levelFor_of_ended fun ha => nomatch hno ha
      have hi' : (⟨i.level, false⟩ : Indent).levelFor l.action = i.level := levelFor_of_ended hno
      obtain ⟨j, rs, hfirst, hsecond⟩ := exists_emits_same (hi'.trans hi.symm) hss
      rw [hl] at hfirst hsecond
      exact ⟨j, j.afterEnd, rs, hfirst, hsecond⟩
    | block name state =>
      -- the name of a block takes the flag away, so nothing is left of the difference
      obtain ⟨j, rs, hemits, -⟩ := exists_rows h
      exact ⟨j, j.afterEnd, rs, hemits, hemits⟩
    | blockEnd state =>
      obtain ⟨j, rs, hemits, -⟩ := exists_rows h
      exact ⟨j, j.afterEnd, rs, hemits, hemits⟩
    | arrow source target direction state =>
      obtain ⟨j, ended, rs, hfirst, hsecond⟩ := ih horderly h
      exact ⟨j, ended, rs, (emits_arrow ..).cons hfirst, (emits_arrow ..).cons hsecond⟩

/-- What comes of a program and of the program with a named block more, if nothing is refused: the
same rows up to the end of the block, and then two runs side by side. -/
lemma exists_rows_wrapped {before run after : List Statement} (name state mark : String)
    (hnested : WellNested (before ++ (run ++ after))) (hrun : WellNested run)
    (h : (emitAll {} (before ++ (run ++ after))).refused = none) :
    ∃ shared rs rs' j j', Emits {} (before ++ (run ++ after)) j (shared ++ rs) ∧
      Emits {} (before ++ (wrapped name state mark run ++ after)) j' (shared ++ rs') ∧
      rs'.map Row.line = rs.map Row.line ∧
      Decided (silent after = true ∨
        (emitAll {} (before ++ run)).indent.level ≤ leadingEnds after ∨
        (clauseNext after = true ∧ (emitAll {} (before ++ run)).indent.afterEnd = false))
        rs rs' := by
  simp only [refused_append, Option.or_eq_none_iff] at h
  obtain ⟨hbefore, hinside, hafter⟩ := h
  obtain ⟨i, rs₀, hemits₀, -⟩ := exists_rows hbefore
  rw [refused_eq _ i] at hinside
  obtain ⟨k, ended, rs₁, hemits₁, hwrapped⟩ := exists_emits_afterBlock hrun.orderly hinside
  have hindent : (emitAll {} (before ++ run)).indent = k :=
    congrArg Emission.indent (hemits₀.append hemits₁)
  rw [refused_eq _ k] at hafter
  obtain ⟨rs, rs', ⟨⟨j, hj⟩, ⟨j', hj'⟩, hlines⟩, hdecided⟩ :=
    exists_beside_blockEnd hnested.orderly.suffix.suffix hafter
  -- the head of the block, its body and its end
  have hblock : Emits i (wrapped name state mark run) ⟨k.level - 1, true⟩ rs₁ := by
    have hend := emits_blockEnd ⟨k.level, ended⟩ mark
    simpa [wrapped] using (emits_block i name state).cons (hwrapped.append hend)
  refine ⟨rs₀ ++ rs₁, rs, rs', j, j', ?_, ?_, hlines, ?_⟩
  · simpa using hemits₀.append (hemits₁.append hj)
  · simpa using hemits₀.append (hblock.append hj')
  · rwa [hindent]

/-- **When a named block shows**: a run of whole statements is made the body of a named block. The
text is the same exactly if there is none, or nothing is written after the block, or the block ends
that follow lead to the outermost level before the next line, or the next line is a later clause of
the chain around the run and the run does not end with a block end. -/
theorem compile_wrapped_iff (p q : Program Statement) (before run after : List Statement)
    (name state mark : String) (hp : p.statements = before ++ (run ++ after))
    (hq : q.statements = before ++ (wrapped name state mark run ++ after))
    (hnested : WellNested (before ++ (run ++ after))) (hrun : WellNested run) :
    q.compile.code = p.compile.code ↔
      (∃ e, p.compile.code = .error e) ∨ silent after = true ∨
        (emitAll {} (before ++ run)).indent.level ≤ leadingEnds after ∨
        (clauseNext after = true ∧ (emitAll {} (before ++ run)).indent.afterEnd = false) := by
  have hrefused : (emitAll {} q.statements).refused = (emitAll {} p.statements).refused := by
    rw [hp, hq]
    simp only [refused_append, refused_wrapped]
  rcases haccepted : (emitAll {} p.statements).refused with _ | e
  · rw [hp] at haccepted
    obtain ⟨shared, rs, rs', j, j', hemits, hemits', hlines, hdecided⟩ :=
      exists_rows_wrapped name state mark hnested hrun haccepted
    rw [← hp] at hemits
    rw [← hq] at hemits'
    rw [code_of_emits hemits, code_of_emits hemits']
    constructor
    · intro hcode
      right
      -- the same lines at levels that add up to the same are at the same levels
      by_contra hdiffers
      have htext : programText (shared ++ rs') = programText (shared ++ rs) := Except.ok.inj hcode
      have hdepth := depth_eq_of_programText_eq (by simp [hlines]) htext
      have hlt := hdecided.lt hdiffers
      simp only [depth_append] at hdepth
      omega
    · rintro (⟨e, he⟩ | hsame)
      · cases he
      · rw [hdecided.eq hsame]
  · have hpcode := code_of_refused haccepted
    have hqcode := code_of_refused (hrefused.trans haccepted)
    rw [hpcode, hqcode]
    exact iff_of_true rfl (.inl ⟨e, rfl⟩)

def choiceThenPass : List Statement :=
  [ifLine.statement, passLine.statement, elseLine.statement, passLine.statement, .blockEnd "~",
    passLine.statement]

/-- A block around a whole branch is not seen when the next branch follows. -/
theorem choiceThenPass_wrapped :
    WellNested choiceThenPass ∧ WellNested [passLine.statement] ∧
      (⟨[[[ifLine.statement] ++ (wrapped "b" "~" "~" [passLine.statement] ++
          choiceThenPass.drop 2)]]⟩ : Program Statement).compile.code =
        (⟨[[choiceThenPass]]⟩ : Program Statement).compile.code := by
  have hnested : WellNested choiceThenPass :=
    (Body.compound .branches ifLine rfl passBody (.clause none elseLine rfl passBody (.done "~"))
      passBody).wellNested
  have hrun : WellNested [passLine.statement] := passBody.wellNested
  refine ⟨hnested, hrun, ?_⟩
  exact (compile_wrapped_iff _ _ [ifLine.statement] [passLine.statement] (choiceThenPass.drop 2)
    "b" "~" "~" rfl rfl hnested hrun).mpr (.inr (.inr (.inr ⟨rfl, rfl⟩)))

def twoPasses : List Statement :=
  [ifLine.statement, passLine.statement, passLine.statement, .blockEnd "~"]

def twoPassesWrapped : List Statement :=
  [ifLine.statement] ++ (wrapped "b" "~" "~" [passLine.statement] ++ twoPasses.drop 2)

theorem twoPasses_wrapped_differs :
    WellNested twoPasses ∧ WellNested [passLine.statement] ∧
      twoPasses = [ifLine.statement] ++ ([passLine.statement] ++ twoPasses.drop 2) ∧
      (⟨[[twoPasses]]⟩ : Program Statement).compile.code = .ok "if True:\n    pass\n    pass" ∧
      (⟨[[twoPassesWrapped]]⟩ : Program Statement).compile.code = .ok "if True:\n    pass\npass" ∧
      (⟨[[twoPassesWrapped]]⟩ : Program Statement).compile.code ≠
        (⟨[[twoPasses]]⟩ : Program Statement).compile.code := by
  have hnested : WellNested twoPasses :=
    (Body.compound .branches ifLine rfl (.line passLine (by decide) passBody) (.done "~")
      .nil).wellNested
  have hplain : (⟨[[twoPasses]]⟩ : Program Statement).compile.code =
      .ok "if True:\n    pass\n    pass" := rfl
  have hblock : (⟨[[twoPassesWrapped]]⟩ : Program Statement).compile.code =
      .ok "if True:\n    pass\npass" := rfl
  refine ⟨hnested, passBody.wellNested, rfl, hplain, hblock, ?_⟩
  rw [hplain, hblock]
  simp

end Flowline
