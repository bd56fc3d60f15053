import Mathlib.Data.List.Chain
import Mathlib.Tactic.Lemma
import Flowline.Proofs.CodeCharacters
import Flowline.Proofs.Edits
import Flowline.Proofs.Indentation

/-!
The lines of a generated program.

However block ends and clauses are arranged, a program that is compiled has one line for each line
among its statements. A line stands at most one level further in than the line before, and only
after a head; and no line holds a break, so that the lines of the text are those that were written.
-/

namespace Flowline

open Text

/-! ### The levels of the lines -/

/-- A line stands at most one level further in than the line before it, and only after a head. -/
def Row.Steps (r s : Row) : Prop :=
  s.level ≤ r.level + 1 ∧ (s.level = r.level + 1 → r.line.action.opensBlock = true)

/-- Lines that begin at most at a level and go further in by steps. -/
structure Stepped (level : Nat) (rs : List Row) : Prop where
  begins : ∀ r ∈ rs.head?, r.level ≤ level
  steps : rs.IsChain Row.Steps

lemma stepped_nil (level : Nat) : Stepped level [] := ⟨by simp, .nil⟩

lemma Stepped.mono {level deeper : Nat} {rs : List Row} (h : Stepped level rs)
    (hle : level ≤ deeper) : Stepped deeper rs :=
  ⟨fun r hr => (h.begins r hr).trans hle, h.steps⟩

lemma Stepped.take {level : Nat} {rs : List Row} (h : Stepped level rs) (n : Nat) :
    Stepped level (rs.take n) := by
  refine ⟨fun r hr => h.begins r ?_, h.steps.take n⟩
  rw [List.head?_take] at hr
  split_ifs at hr
  · cases hr
  · exact hr

/-- A line in front of others that begin at most one level further in, or no further in unless the
line is a head. -/
lemma Stepped.cons {r : Row} {rs : List Row}
    (h : Stepped (r.level + if r.line.action.opensBlock then 1 else 0) rs) :
    Stepped r.level (r :: rs) := by
  refine ⟨by simp, List.isChain_cons.mpr ⟨fun s hs => ?_, h.steps⟩⟩
  have hle := h.begins s hs
  split_ifs at hle with hopens
  · exact ⟨hle, fun _ => hopens⟩
  · exact ⟨by omega, fun heq => by omega⟩

lemma level_forAction_le (i : Indent) (a : Action) : (i.forAction a).level ≤ i.level := by
  unfold Indent.forAction Indent.shallower
  split_ifs
  · exact Nat.sub_le _ _
  · exact le_rfl

/-- What a statement that is not refused does: it writes nothing and does not go further in, or it
writes a line and goes one level further in if the line is a head. -/
lemma emits_statement {s : Statement} {ss : List Statement} {i : Indent}
    (h : (emitAll i (s :: ss)).refused = none) :
    (∃ j, Emits i [s] j [] ∧ s.isLine = false ∧ j.level ≤ i.level) ∨
      ∃ j r, Emits i [s] j [r] ∧ r.line.statement = s ∧ r.level ≤ i.level ∧
        j.level = r.level + if r.line.action.opensBlock then 1 else 0 := by
  cases s with
  | block name state => exact .inl ⟨⟨i.level, false⟩, rfl, rfl, le_rfl⟩
  | blockEnd state => exact .inl ⟨_, emits_blockEnd i state, rfl, Nat.sub_le _ _⟩
  | arrow source target direction state => exact .inl ⟨i, rfl, rfl, le_rfl⟩
  | line a args state =>
    rcases hcode : a.code args with e | text
    · simp [emitAll, Statement.emit, Indent.write, hcode] at h
    · have hline := emits_line i ⟨a, args, state, text, hcode⟩
      exact .inr ⟨_, _, hline, rfl, level_forAction_le i a, rfl⟩

lemma refused_of_emits {s : Statement} {ss : List Statement} {i j : Indent} {rs : List Row}
    (hs : Emits i [s] j rs) (h : (emitAll i (s :: ss)).refused = none) :
    (emitAll j ss).refused = none := by
  rw [← List.singleton_append, emitAll_append, hs] at h
  exact h

/-- Statements of which none is refused write one line for each line among them, and the lines go
further in by steps. -/
lemma exists_rows {ss : List Statement} {i : Indent} (h : (emitAll i ss).refused = none) :
    ∃ j rs, Emits i ss j rs ∧
      rs.map (fun r => r.line.statement) = ss.filter Statement.isLine ∧ Stepped i.level rs := by
  induction ss generalizing i with
  | nil => exact ⟨i, [], .nil i, rfl, stepped_nil i.level⟩
  | cons s ss ih =>
    obtain ⟨j, hs, hline, hle⟩ | ⟨j, r, hs, rfl, hle, hlevel⟩ := emits_statement h
    · obtain ⟨k, rs, hemits, hmap, hstepped⟩ := ih (refused_of_emits hs h)
      refine ⟨k, rs, hs.cons hemits, ?_, hstepped.mono hle⟩
      rw [hmap, List.filter_cons_of_neg (by simp [hline])]
    · obtain ⟨k, rs, hemits, hmap, hstepped⟩ := ih (refused_of_emits hs h)
      rw [hlevel] at hstepped
      refine ⟨k, r :: rs, hs.cons hemits, ?_, hstepped.cons.mono hle⟩
      rw [List.map_cons, hmap, List.filter_cons_of_pos rfl]

/-! ### The lines of the text -/

lemma row_text (r : Row) :
    r.text.toList = List.replicate (4 * r.level) ' ' ++ r.line.text.toList := by
  simp [Row.text, Indent.pad]

lemma programText_nil : (programText []).toList = [] := rfl

lemma programText_singleton (r : Row) : (programText [r]).toList = r.text.toList := by
  simp [programText]

lemma programText_cons (r s : Row) (rs : List Row) :
    (programText (r :: s :: rs)).toList =
      r.text.toList ++ '\n' :: (programText (s :: rs)).toList := by
  simp [programText]

lemma isLineBreak_of_isInline {c : Char} (h : isInline c = true) : isLineBreak c = false := by
  by_contra hbreak
  have hblank := isBlank_of_isLineBreak (by simpa using hbreak)
  have hspace : c = ' ' := by simpa [isInline, hblank] using h
  subst hspace
  exact hbreak (by decide)

lemma row_unbroken {r : Row} (hr : IsLineText r.line.text) :
    ∀ c ∈ r.text.toList, isLineBreak c = false := by
  intro c hc
  rw [row_text] at hc
  rcases List.mem_append.mp hc with hc | hc
  · rw [(List.mem_replicate.mp hc).2]
    decide
  · exact isLineBreak_of_isInline (List.all_eq_true.mp hr.inline c hc)

lemma row_begins {r : Row} (hr : IsLineText r.line.text) :
    ∃ c cs, r.text.toList = List.replicate (4 * r.level) ' ' ++ c :: cs ∧
      isBlank c = false ∧ c ≠ '#' ∧ r.line.text.toList = c :: cs := by
  have hbegins := hr.begins
  rcases hcons : r.line.text.toList with _ | ⟨c, cs⟩
  · simp [hcons] at hbegins
  · rw [row_text, hcons]
    simp only [hcons, List.head?_cons, Option.any_some, Bool.and_eq_true, Bool.not_eq_true',
      bne_iff_ne] at hbegins
    exact ⟨c, cs, rfl, hbegins.1, hbegins.2, rfl⟩

lemma pieces_programText {r : Row} {rs : List Row} (hrs : ∀ s ∈ r :: rs, IsLineText s.line.text) :
    pieces isLineBreak (programText (r :: rs)).toList = (r :: rs).map fun s => s.text.toList := by
  induction rs generalizing r with
  | nil =>
    have hunbroken := row_unbroken (hrs r (by simp))
    rw [programText_singleton]
    exact pieces_of_forall_not hunbroken fun hmem => absurd (hunbroken '\r' hmem) (by decide)
  | cons s rs ih =>
    have hunbroken := row_unbroken (hrs r (by simp))
    have htail := ih fun t ht => hrs t (List.mem_cons_of_mem r ht)
    rw [programText_cons, Editor.pieces_append_feed (by decide) hunbroken
      fun hmem => absurd (hunbroken '\r' hmem) (by decide), htail]
    rfl

/-- The lines of the text are the lines that were written. -/
lemma sourceLines_programText {rs : List Row} (hrs : ∀ r ∈ rs, IsLineText r.line.text) :
    sourceLines (programText rs).toList = rs.map fun r => r.text.toList := by
  rcases rs with _ | ⟨r, rs⟩
  · rfl
  rw [sourceLines, pieces_programText hrs]
  -- the last line is not empty, so it is no piece that a break at the end leaves
  refine if_neg fun hlast => ?_
  obtain ⟨s, hs, hempty⟩ := List.mem_map.mp (List.mem_of_getLast? (beq_iff_eq.mp hlast))
  obtain ⟨c, cs, htext, -⟩ := row_begins (hrs s hs)
  simp [htext] at hempty

/-! ### Compiled programs -/

lemma compile_rows {p : Program Statement} {code : String} (h : p.compile.code = .ok code) :
    ∃ rs, code = programText rs ∧
      rs.map (fun r => r.line.statement) = p.statements.filter Statement.isLine ∧ Stepped 0 rs := by
  rcases hrefused : (emitAll {} p.statements).refused with _ | e
  · obtain ⟨j, rs, hemits, hstatements, hstepped⟩ := exists_rows hrefused
    have hcode := code_of_emits hemits
    exact ⟨rs, Except.ok.inj (h.symm.trans hcode), hstatements, hstepped⟩
  · simp only [Program.compile, hrefused] at h
    cases h

lemma rows_isLineText {source : String} {p : Program Statement} (hp : parse source = .ok p)
    {rs : List Row}
    (hrs : rs.map (fun r => r.line.statement) = p.statements.filter Statement.isLine) :
    ∀ r ∈ rs, IsLineText r.line.text := by
  intro r hr
  have hmem : r.line.statement ∈ p.statements.filter Statement.isLine :=
    hrs ▸ List.mem_map_of_mem hr
  have hargs := args_isWord hp (List.mem_of_mem_filter hmem)
  exact code_givesLine hargs r.line.action r.line.text r.line.code_eq

end Flowline
