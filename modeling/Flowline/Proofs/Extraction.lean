import Flowline.Editor.Refactor
import Flowline.Proofs.References
import Flowline.Proofs.Selection

/-!
Refactorings: what their edits do, and what they hit.

The second edit of a refactoring is meant for the document in which the first has been made: its range
is moved down by the lines that the first one puts in. Made one after the other, the edits that extract
a function put it before the place where its lines are called, and nothing else changes. An editor that
reads both ranges in the document as it was never finds the selection with the second one.
-/

namespace Flowline.Editor

open Text

lemma Position.le_iff {a b : Position} :
    a.le b = true ↔ a.line < b.line ∨ a.line = b.line ∧ a.column ≤ b.column := by
  simp [Position.le]

lemma Position.before_of_le {a b : Position} (hle : a.le b = true) (hne : a ≠ b) : a.Before b := by
  rcases Position.le_iff.mp hle with hline | ⟨hline, hcol⟩
  · exact .inl hline
  · refine .inr ⟨hline, Nat.lt_of_le_of_ne hcol fun heq => hne ?_⟩
    cases a
    cases b
    exact Position.mk.injEq .. ▸ ⟨hline, heq⟩

lemma Position.Before.not_le {a b : Position} (h : a.Before b) : ¬ b.le a = true := by
  rw [Position.le_iff]
  rcases h with h | h <;> omega

/-! ### Text that is put in line by line -/

lemma joinWith_append_feed {ls : List (List Char)} (hne : ls ≠ []) :
    joinWith ['\n'] ls ++ ['\n'] = ls.flatMap (· ++ ['\n']) := by
  have hlast := List.dropLast_append_getLast hne
  have hjoin := joinWith_append_cons ['\n'] ls.dropLast (ls.getLast hne) []
  rw [hlast] at hjoin
  rw [hjoin]
  conv_rhs => rw [← hlast, List.flatMap_append]
  simp

lemma count_feed_flatMap {ls : List (List Char)} (h : ∀ l ∈ ls, Unbroken l) :
    (ls.flatMap (· ++ ['\n'])).count '\n' = ls.length := by
  induction ls with
  | nil => rfl
  | cons l ls ih =>
    rw [List.forall_mem_cons] at h
    rw [List.flatMap_cons, List.count_append, List.count_append, List.count_eq_zero.mpr h.1.1,
      List.count_singleton_self, ih h.2, List.length_cons]
    omega

namespace Document

variable {d : Document} {r : Range}

/-- The document after edits that are made one after the other, each in what the last one left. -/
def editedInTurn (d : Document) (es : List Edit) : Document := es.foldl edited d

def functionLines (d : Document) (r : Range) : List (List Char) :=
  "定 newFunc:".toList :: (d.selected r ++ ["终".toList, []])

def callLine (d : Document) (r : Range) : List Char :=
  indentation (d.lineD r.start.line) ++ "调 newFunc".toList

/-- The range of all lines from the first to the last that a range touches. -/
def wholeLines (d : Document) (r : Range) : Range :=
  ⟨⟨r.start.line, 0⟩, ⟨r.stop.line, units (d.lineD r.stop.line)⟩⟩

lemma length_selected (hle : r.start.line ≤ r.stop.line) (hr : r.stop.line < d.lines.length) :
    (d.selected r).length = r.stop.line + 1 - r.start.line := by
  rw [selected, List.length_take, List.length_drop]
  omega

lemma length_functionLines (hle : r.start.line ≤ r.stop.line) (hr : r.stop.line < d.lines.length) :
    (d.functionLines r).length = r.stop.line + 4 - r.start.line := by
  rw [functionLines, List.length_cons, List.length_append, length_selected hle hr]
  simp only [List.length_cons, List.length_nil]
  omega

lemma unbroken_lineD (hd : d.Sound) (n : Nat) : Unbroken (d.lineD n) := by
  by_cases hn : n < d.lines.length
  · rw [lineD_of_lt hn]
    exact hd.unbroken _ (List.getElem_mem hn)
  · rw [lineD, List.getElem?_eq_none (by omega)]
    exact ⟨List.not_mem_nil, List.not_mem_nil⟩

lemma unbroken_functionLines (hd : d.Sound) (r : Range) :
    ∀ l ∈ d.functionLines r, Unbroken l := by
  intro l hl
  simp only [functionLines, List.mem_cons, List.mem_append, List.not_mem_nil, or_false] at hl
  rcases hl with rfl | hl | rfl | rfl
  · exact ⟨by decide, by decide⟩
  · exact hd.unbroken l (List.mem_of_mem_drop (List.mem_of_mem_take hl))
  · exact ⟨by decide, by decide⟩
  · exact ⟨List.not_mem_nil, List.not_mem_nil⟩

lemma unbroken_callLine (hd : d.Sound) (r : Range) : Unbroken (d.callLine r) := by
  refine Unbroken.append ((unbroken_lineD hd r.start.line).of_subset fun c hc => ?_)
    ⟨by decide, by decide⟩
  exact List.takeWhile_subset _ hc

/-- The edits that make a function of the lines that a range touches. -/
lemma extractFunction_eq (hd : d.Sound) (hle : r.start.line ≤ r.stop.line)
    (hr : r.stop.line < d.lines.length) :
    d.extractFunction r =
      ⟨.toFunction,
        [.insert ⟨d.insertionLine r.start.line r.start.line, 0⟩
            ((d.functionLines r).flatMap (· ++ ['\n'])),
          .replace ((d.wholeLines r).down (d.functionLines r).length) (d.callLine r)]⟩ := by
  have hne : d.selected r ≠ [] := by
    have hlen := length_selected hle hr
    exact List.ne_nil_of_length_pos (by omega)
  have hbody : (d.lines.take (r.stop.line + 1)).drop r.start.line = d.selected r :=
    List.drop_take
  have hhead : "定 ".toList ++ newFunction ++ ":\n".toList = "定 newFunc:".toList ++ ['\n'] := by decide
  have hfoot : "\n终\n\n".toList = ['\n'] ++ ("终".toList ++ ['\n'] ++ ['\n']) := by decide
  have hcall : "调 ".toList ++ newFunction = "调 newFunc".toList := by decide
  have htext : "定 ".toList ++ newFunction ++ ":\n".toList ++ joinWith ['\n'] (d.selected r) ++
      "\n终\n\n".toList = (d.functionLines r).flatMap (· ++ ['\n']) := by
    rw [functionLines, List.flatMap_cons, List.flatMap_append, ← joinWith_append_feed hne, hhead, hfoot]
    simp only [List.flatMap_cons, List.flatMap_nil, List.nil_append, List.append_nil,
      List.append_assoc]
  unfold extractFunction
  simp only [hbody, htext, count_feed_flatMap (unbroken_functionLines hd r)]
  rw [callLine, wholeLines, ← hcall, ← List.append_assoc]

/-- The search for the place of the function goes up from the selection. -/
lemma insertionLine_le (d : Document) (current i : Nat) : d.insertionLine current i ≤ i := by
  induction i with
  | zero => exact Nat.le_refl 0
  | succ i ih =>
    unfold insertionLine
    dsimp only
    split_ifs <;> omega

/-! ### The edits made one after the other -/

section

variable {p : Nat} {ls : List (List Char)}

lemma length_take_append (hp : p ≤ d.lines.length) :
    (d.lines.take p ++ ls).length = p + ls.length := by
  rw [List.length_append, List.length_take, Nat.min_eq_left hp]

/-- The lines from the place of the insertion on are found as many lines further down. -/
lemma drop_withInserted {n : Nat} (hpn : p ≤ n) (hp : p ≤ d.lines.length) :
    (d.withInserted p ls).lines.drop (n + ls.length) = d.lines.drop n := by
  have hlen : (d.lines.take p ++ ls).length = p + ls.length := length_take_append hp
  rw [withInserted, List.drop_append, List.drop_eq_nil_of_le (by omega), List.nil_append, hlen,
    List.drop_drop]
  congr 1
  omega

lemma take_withInserted {n : Nat} (hpn : p ≤ n) (hp : p ≤ d.lines.length) :
    (d.withInserted p ls).lines.take (n + ls.length) =
      d.lines.take p ++ ls ++ (d.lines.drop p).take (n - p) := by
  have hlen : (d.lines.take p ++ ls).length = p + ls.length := length_take_append hp
  rw [withInserted, List.take_append, List.take_of_length_le (by omega), hlen]
  congr 2
  omega

lemma lineD_withInserted {n : Nat} (hpn : p ≤ n) (hp : p ≤ d.lines.length) :
    (d.withInserted p ls).lineD (n + ls.length) = d.lineD n := by
  have hdrop : ((d.withInserted p ls).lines.drop (n + ls.length)).head? = (d.lines.drop n).head? := by
    rw [drop_withInserted hpn hp]
  rw [List.head?_drop, List.head?_drop] at hdrop
  rw [lineD, lineD, hdrop]

end

/-- The function is put in first, and then its lines are replaced where they have come to. -/
lemma lines_extracted (hd : d.Sound) (hle : r.start.line ≤ r.stop.line)
    (hr : r.stop.line < d.lines.length) {p : Nat} (hp : p ≤ r.start.line) :
    (d.editedInTurn [.insert ⟨p, 0⟩ ((d.functionLines r).flatMap (· ++ ['\n'])),
        .replace ((d.wholeLines r).down (d.functionLines r).length) (d.callLine r)]).lines =
      d.lines.take p ++ d.functionLines r ++ (d.lines.drop p).take (r.start.line - p) ++
        d.callLine r :: d.lines.drop (r.stop.line + 1) := by
  have hplace : p ≤ d.lines.length := by omega
  have hnew := unbroken_functionLines hd r
  have hinserted := edited_insert_lines hd (show p < d.lines.length by omega) hnew
  have hlast : (d.withInserted p (d.functionLines r)).lineD
      (r.stop.line + (d.functionLines r).length) = d.lineD r.stop.line :=
    lineD_withInserted (by omega) hplace
  have hrange : (d.wholeLines r).down (d.functionLines r).length =
      ⟨⟨r.start.line + (d.functionLines r).length, 0⟩,
        ⟨r.stop.line + (d.functionLines r).length,
          units ((d.withInserted p (d.functionLines r)).lineD
            (r.stop.line + (d.functionLines r).length))⟩⟩ := by
    rw [hlast]
    rfl
  have hdrop : (d.withInserted p (d.functionLines r)).lines.drop
      (r.stop.line + (d.functionLines r).length + 1) = d.lines.drop (r.stop.line + 1) := by
    rw [Nat.add_right_comm]
    exact drop_withInserted (by omega) hplace
  simp only [editedInTurn, List.foldl_cons, List.foldl_nil, hinserted, hrange]
  rw [edited_lines (withInserted_sound hd (by omega) hnew) (by omega)
    (by rw [length_withInserted hplace]; omega) (unbroken_callLine hd r)]
  simp only [take_withInserted hp hplace, hdrop]

/-! ### What is offered -/

/-- On one line there is something to select only if the line exists. -/
lemma stop_lt_of_slice (hd : d.Sound) (hsame : r.start.line = r.stop.line) (h : d.slice r ≠ []) :
    r.stop.line < d.lines.length := by
  by_contra hge
  have hlast : d.lines.length - 1 < r.stop.line := by
    have hpos := List.length_pos_iff.mpr hd.nonempty
    omega
  exact h (by simp [slice, clamp, hsame, hlast])

/-- Whatever is offered, something is selected and the selected lines exist; a variable is offered on
one line only. -/
lemma offered_cases (hd : d.Sound) {xs : List Refactoring} {x : Refactoring}
    (h : d.refactorings r = .ok xs) (hx : x ∈ xs) :
    d.slice r ≠ [] ∧ r.stop.line < d.lines.length ∧
      (x = d.extractFunction r ∨
        r.start.line = r.stop.line ∧ x = d.extractVariable r (trim isEditorBlank (d.slice r))) := by
  unfold refactorings at h
  dsimp only at h
  by_cases hblank : (r.isEmpty || (trim isEditorBlank (d.slice r)).isEmpty) = true
  · rw [if_pos hblank] at h
    obtain rfl := Except.ok.inj h
    cases hx
  have hne : d.slice r ≠ [] := by
    intro hnil
    simp [hnil, trim, trimStart, trimEnd] at hblank
  rw [if_neg hblank] at h
  by_cases hsame : r.start.line = r.stop.line
  · -- a selection within one line
    rw [if_pos hsame] at h
    obtain rfl := Except.ok.inj h
    refine ⟨hne, stop_lt_of_slice hd hsame hne, ?_⟩
    rcases List.mem_append.mp hx with hvariable | hfunction
    · split_ifs at hvariable
      · cases hvariable
      · exact .inr ⟨hsame, List.mem_singleton.mp hvariable⟩
    · split_ifs at hfunction
      · exact .inl (List.mem_singleton.mp hfunction)
      · cases hfunction
  · -- a selection over several lines
    rw [if_neg hsame] at h
    by_cases hbeyond : d.lines.length ≤ r.stop.line
    · rw [if_pos hbeyond] at h
      cases h
    · rw [if_neg hbeyond] at h
      obtain rfl := Except.ok.inj h
      exact ⟨hne, Nat.lt_of_not_le hbeyond, .inl (List.mem_singleton.mp hx)⟩

/-- **Extracting a function** rewrites exactly the selected lines. The function is put in at or above
the selection, the call takes the place of the selected lines, and all other lines stay as they are. -/
theorem extraction_rewrites (text : String) {r : Range} (hle : r.start.line ≤ r.stop.line)
    {xs : List Refactoring} {x : Refactoring} (h : (ofText text).refactorings r = .ok xs)
    (hx : x ∈ xs) (hfunction : x.extraction = .toFunction) :
    ∃ p inserted range call, x.edits = [.insert ⟨p, 0⟩ inserted, .replace range call] ∧
      p ≤ r.start.line ∧
      ((ofText text).editedInTurn x.edits).lines =
        (ofText text).lines.take p ++ ["定 newFunc:".toList] ++ (ofText text).selected r ++
          ["终".toList, []] ++ ((ofText text).lines.drop p).take (r.start.line - p) ++
          [indentation ((ofText text).lineD r.start.line) ++ "调 newFunc".toList] ++
          (ofText text).lines.drop (r.stop.line + 1) := by
  have hd := ofText_sound text
  obtain ⟨-, hr, rfl | ⟨-, rfl⟩⟩ := offered_cases hd h hx
  · have hp := insertionLine_le (ofText text) r.start.line r.start.line
    rw [extractFunction_eq hd hle hr]
    refine ⟨_, _, _, _, rfl, hp, ?_⟩
    rw [lines_extracted hd hle hr hp]
    simp [functionLines, callLine]
  · cases hfunction

def twoStatements : String := "定 f:\n终\n\n置 x 1\n  印 x\n  印 y\n空"

/-- The two indented lines become a function below the empty line. -/
theorem twoStatements_extracted :
    ∃ x, (ofText twoStatements).refactorings ⟨⟨4, 1⟩, ⟨5, 3⟩⟩ = .ok [x] ∧
      x.extraction = .toFunction ∧
      ((ofText twoStatements).editedInTurn x.edits).lines =
        ["定 f:".toList, "终".toList, [], "定 newFunc:".toList, "  印 x".toList, "  印 y".toList,
          "终".toList, [], "置 x 1".toList, "  调 newFunc".toList, "空".toList] := by
  have hoffered : (ofText twoStatements).refactorings ⟨⟨4, 1⟩, ⟨5, 3⟩⟩ =
      .ok [(ofText twoStatements).extractFunction ⟨⟨4, 1⟩, ⟨5, 3⟩⟩] := by decide +kernel
  refine ⟨_, hoffered, rfl, ?_⟩
  obtain ⟨p, inserted, range, call, hedits, -, hlines⟩ :=
    extraction_rewrites twoStatements (by decide) hoffered (List.mem_singleton_self _) rfl
  have hp : p = 3 := by
    have hplace : (ofText twoStatements).insertionLine 4 4 = 3 := by decide +kernel
    injection hedits with hinsert
    injection hinsert with hposition
    exact (congrArg Position.line hposition).symm.trans hplace
  subst hp
  rw [hlines]
  decide +kernel

/-! ### The edits read in the document as it was -/

def resolved (d : Document) (r : Range) : Range := ⟨d.clamp r.start, d.clamp r.stop⟩

/-- A line has a selected character. The break at the end of a line is a character of that line. -/
def HasSelected (d : Document) (r : Range) (n : Nat) : Prop :=
  ∃ col ≤ units (d.lineD n),
    (d.resolved r).start.le ⟨n, col⟩ = true ∧ Position.Before ⟨n, col⟩ (d.resolved r).stop

/-- The range that a refactoring of a selection has to replace: for a variable what is selected, for a
function the whole lines that have a selected character. -/
def IsTarget (d : Document) (r : Range) : Extraction → Range → Prop
  | .toVariable, t => t = d.resolved r
  | .toFunction, t => ∃ first last, t = ⟨⟨first, 0⟩, ⟨last, units (d.lineD last)⟩⟩ ∧
      ∀ n, d.HasSelected r n ↔ first ≤ n ∧ n ≤ last

/-- Positions are found in the order in which they are given. -/
lemma clamp_le_clamp {p q : Position} (h : p.le q = true) : (d.clamp p).le (d.clamp q) = true := by
  rw [Position.le_iff] at h ⊢
  unfold clamp
  dsimp only
  split_ifs with hp hq hq
  · exact .inr ⟨rfl, Nat.le_refl _⟩
  · omega
  · dsimp only
    by_cases hlast : p.line = d.lines.length - 1
    · exact .inr ⟨hlast, by rw [← hlast]; exact Nat.min_le_right _ _⟩
    · omega
  · rcases h with h | ⟨hline, hcol⟩
    · exact .inl h
    · refine .inr ⟨hline, ?_⟩
      dsimp only
      rw [hline]
      omega

/-- Between the ends of a selection with some text there is room. -/
lemma start_before_stop (hle : r.start.le r.stop = true) (h : d.slice r ≠ []) :
    (d.resolved r).start.Before (d.resolved r).stop := by
  refine Position.before_of_le (clamp_le_clamp hle) fun heq => h ?_
  change d.clamp r.start = d.clamp r.stop at heq
  simp [slice, heq]

/-- The lines with a selected character: the last line that the selection touches has one unless the
selection ends right at its beginning. -/
lemma hasSelected_iff (hr : r.stop.line < d.lines.length) (hle : r.start.line ≤ r.stop.line)
    (h : (d.resolved r).start.Before (d.resolved r).stop) (n : Nat) :
    d.HasSelected r n ↔ r.start.line ≤ n ∧
      (n < r.stop.line ∨ n = r.stop.line ∧ (d.clamp r.stop).column ≠ 0) := by
  have hstart : d.clamp r.start = ⟨r.start.line, min r.start.column (units (d.lineD r.start.line))⟩ :=
    clamp_of_lt (by omega)
  have hstop : (d.clamp r.stop).line = r.stop.line := by rw [clamp_of_lt hr]
  simp only [HasSelected, resolved, Position.le_iff, Position.Before, hstart, hstop] at h ⊢
  constructor
  · rintro ⟨col, -, hfrom, hto⟩
    omega
  · rintro ⟨hfrom, hto⟩
    by_cases hfirst : n = r.start.line
    · subst hfirst
      exact ⟨_, Nat.min_le_right _ _, .inr ⟨rfl, Nat.le_refl _⟩, h⟩
    · exact ⟨0, Nat.zero_le _, by omega, by omega⟩

/-- The range that has to be replaced begins before the selection ends. -/
lemma IsTarget.start_before {e : Extraction} {t : Range} (ht : d.IsTarget r e t)
    (hr : r.stop.line < d.lines.length) (hle : r.start.line ≤ r.stop.line)
    (h : (d.resolved r).start.Before (d.resolved r).stop) :
    t.start.Before (d.resolved r).stop := by
  cases e with
  | toVariable =>
    obtain rfl : t = d.resolved r := ht
    exact h
  | toFunction =>
    obtain ⟨first, last, rfl, hlines⟩ := ht
    have hstop : d.clamp r.stop = ⟨r.stop.line, min r.stop.column (units (d.lineD r.stop.line))⟩ :=
      clamp_of_lt hr
    have hstart : (d.clamp r.start).line = r.start.line := by rw [clamp_of_lt (by omega)]
    simp only [hasSelected_iff hr hle h] at hlines
    have hfirst := hlines r.start.line
    simp only [Position.Before, resolved, hstop, hstart] at h hfirst ⊢
    omega

lemma resolved_wholeLines (hr : r.stop.line < d.lines.length) (hle : r.start.line ≤ r.stop.line) :
    d.resolved (d.wholeLines r) = d.wholeLines r := by
  have hstart : d.clamp ⟨r.start.line, 0⟩ = ⟨r.start.line, 0⟩ := clamp_of_le (by omega) (Nat.zero_le _)
  have hstop := clamp_of_le hr (Nat.le_refl (units (d.lineD r.stop.line)))
  simp only [resolved, wholeLines, hstart, hstop]

/-- The lines that a selection touches are those with a selected character, unless the selection ends
at the beginning of a line. -/
lemma isTarget_wholeLines_iff (hr : r.stop.line < d.lines.length)
    (hle : r.start.line ≤ r.stop.line)
    (h : (d.resolved r).start.Before (d.resolved r).stop) :
    d.IsTarget r .toFunction (d.wholeLines r) ↔ (d.clamp r.stop).column ≠ 0 := by
  simp only [IsTarget, hasSelected_iff hr hle h]
  constructor
  · rintro ⟨first, last, heq, hlines⟩
    obtain ⟨rfl, rfl⟩ : r.start.line = first ∧ r.stop.line = last := by
      simp only [wholeLines, Range.mk.injEq, Position.mk.injEq] at heq
      exact ⟨heq.1.1, heq.2.1⟩
    have hlast := (hlines r.stop.line).mpr ⟨hle, Nat.le_refl _⟩
    omega
  · intro hcol
    exact ⟨r.start.line, r.stop.line, rfl, fun n => by omega⟩

def variableLine (d : Document) (r : Range) : List Char :=
  indentation (d.lineD r.start.line) ++ "置 newVar ".toList ++ trim isEditorBlank (d.slice r)

lemma extractVariable_eq (d : Document) (r : Range) :
    d.extractVariable r (trim isEditorBlank (d.slice r)) =
      ⟨.toVariable,
        [.insert ⟨r.start.line, 0⟩ ([d.variableLine r].flatMap (· ++ ['\n'])),
          .replace (r.down 1) newVariable]⟩ := by
  have hhead : "置 ".toList ++ newVariable ++ [' '] = "置 newVar ".toList := by decide
  rw [variableLine, ← hhead]
  simp only [extractVariable, List.flatMap_cons, List.flatMap_nil, List.append_nil, List.append_assoc]

lemma unbroken_slice (hd : d.Sound) (hsame : r.start.line = r.stop.line)
    (hr : r.stop.line < d.lines.length) : Unbroken (d.slice r) := by
  refine (unbroken_lineD hd r.start.line).of_subset fun c hc => ?_
  have hstart : d.clamp r.start = ⟨r.start.line, min r.start.column (units (d.lineD r.start.line))⟩ :=
    clamp_of_lt (by omega)
  have hstop := clamp_of_lt hr
  simp only [slice, hstart, hstop, hsame, if_true] at hc
  rw [hsame, ← takeUnits_append_dropUnits (min r.start.column (units (d.lineD r.stop.line)))
    (d.lineD r.stop.line)]
  refine List.mem_append_right _ ?_
  rw [← takeUnits_append_dropUnits _ (dropUnits _ _)]
  exact List.mem_append_left _ hc

lemma unbroken_variableLine (hd : d.Sound) (hsame : r.start.line = r.stop.line)
    (hr : r.stop.line < d.lines.length) : Unbroken (d.variableLine r) := by
  have hindent : Unbroken (indentation (d.lineD r.start.line)) :=
    (unbroken_lineD hd r.start.line).of_subset fun _ hc => List.takeWhile_subset _ hc
  have hvalue : Unbroken (trim isEditorBlank (d.slice r)) :=
    (unbroken_slice hd hsame hr).of_subset fun _ hc => mem_of_mem_trim hc
  exact (hindent.append ⟨by decide, by decide⟩).append hvalue

/-- Read in the document as it was, the second edit begins where the selection ends or later. -/
lemma misses (hr : r.stop.line < d.lines.length) (hle : r.start.line ≤ r.stop.line)
    (h : (d.resolved r).start.Before (d.resolved r).stop) {aim : Range} {k : Nat}
    (hbelow : r.stop.line < aim.start.line + k) (e : Extraction) :
    (d.resolved r).stop.le (d.resolved (aim.down k)).start = true ∧
      ¬ d.IsTarget r e (d.resolved (aim.down k)) := by
  have hstop : (d.resolved r).stop.le (d.resolved (aim.down k)).start = true :=
    clamp_le_clamp (Position.le_iff.mpr (.inl hbelow))
  exact ⟨hstop, fun ht => (ht.start_before hr hle h).not_le hstop⟩

/-- **The edits of a refactoring, read in the document as it was.** The second edit never replaces what
was selected, since its range is moved down by the lines of the first. Without that it would replace the
selection, except where a function is made of a selection that ends at the beginning of a line: that
line is taken in too. -/
theorem replacement_misses_selection (text : String) {r : Range} (hle : r.start.le r.stop = true)
    {xs : List Refactoring} {x : Refactoring} (h : (ofText text).refactorings r = .ok xs)
    (hx : x ∈ xs) :
    ∃ place inserted aim replacement,
      x.edits = [.insert place inserted, .replace (aim.down (inserted.count '\n')) replacement] ∧
      ((ofText text).resolved r).stop.le
        ((ofText text).resolved (aim.down (inserted.count '\n'))).start = true ∧
      ¬ (ofText text).IsTarget r x.extraction
        ((ofText text).resolved (aim.down (inserted.count '\n'))) ∧
      ((ofText text).IsTarget r x.extraction ((ofText text).resolved aim) ↔
        x.extraction = .toVariable ∨ ((ofText text).clamp r.stop).column ≠ 0) := by
  have hd := ofText_sound text
  obtain ⟨hne, hr, hcases⟩ := offered_cases hd h hx
  have hroom := start_before_stop hle hne
  have hlines : r.start.line ≤ r.stop.line := by
    rcases Position.le_iff.mp hle with hlt | ⟨heq, -⟩ <;> omega
  rcases hcases with rfl | ⟨hsame, rfl⟩
  · -- a function
    have hcount := count_feed_flatMap (unbroken_functionLines hd r)
    have hlength := length_functionLines hlines hr
    rw [extractFunction_eq hd hlines hr]
    refine ⟨_, _, (ofText text).wholeLines r, _, by rw [hcount], ?_⟩
    rw [hcount]
    -- the range is moved down by all new lines, which is further than the selection reaches
    have hbelow : r.stop.line < ((ofText text).wholeLines r).start.line +
        ((ofText text).functionLines r).length := by
      rw [hlength, wholeLines]
      dsimp only
      omega
    obtain ⟨hstop, hmiss⟩ := misses hr hlines hroom hbelow .toFunction
    refine ⟨hstop, hmiss, ?_⟩
    rw [resolved_wholeLines hr hlines, isTarget_wholeLines_iff hr hlines hroom]
    simp
  · -- a variable
    have hunbroken : ∀ l ∈ [(ofText text).variableLine r], Unbroken l := by
      simpa using unbroken_variableLine hd hsame hr
    have hcount := count_feed_flatMap hunbroken
    rw [extractVariable_eq]
    refine ⟨_, _, r, _, by rw [hcount]; rfl, ?_⟩
    rw [hcount]
    have hbelow : r.stop.line < r.start.line + [(ofText text).variableLine r].length := by
      rw [hsame]
      exact Nat.lt_succ_self _
    obtain ⟨hstop, hmiss⟩ := misses hr hlines hroom hbelow .toVariable
    exact ⟨hstop, hmiss, iff_of_true rfl (.inl rfl)⟩

def threePrints : String := "印 a b\n印 c\n印 d"

/-- The first two lines are selected, and the third is touched: the function would take in all three. -/
theorem threePrints_missed :
    Position.le ⟨0, 0⟩ ⟨2, 0⟩ = true ∧
      ∃ x, (ofText threePrints).refactorings ⟨⟨0, 0⟩, ⟨2, 0⟩⟩ = .ok [x] ∧
        ∃ place inserted aim replacement,
          x.edits = [.insert place inserted, .replace (aim.down (inserted.count '\n')) replacement] ∧
          ¬ (ofText threePrints).IsTarget ⟨⟨0, 0⟩, ⟨2, 0⟩⟩ .toFunction
            ((ofText threePrints).resolved (aim.down (inserted.count '\n'))) ∧
          ¬ (ofText threePrints).IsTarget ⟨⟨0, 0⟩, ⟨2, 0⟩⟩ .toFunction
            ((ofText threePrints).resolved aim) := by
  have hoffered : (ofText threePrints).refactorings ⟨⟨0, 0⟩, ⟨2, 0⟩⟩ =
      .ok [(ofText threePrints).extractFunction ⟨⟨0, 0⟩, ⟨2, 0⟩⟩] := by decide +kernel
  have hcol : ((ofText threePrints).clamp ⟨2, 0⟩).column = 0 := by decide +kernel
  have hle : Position.le ⟨0, 0⟩ ⟨2, 0⟩ = true := by decide
  refine ⟨hle, _, hoffered, ?_⟩
  obtain ⟨place, inserted, aim, replacement, hedits, -, hmiss, haim⟩ :=
    replacement_misses_selection threePrints hle hoffered (List.mem_singleton_self _)
  refine ⟨place, inserted, aim, replacement, hedits, hmiss, fun ht => ?_⟩
  rcases haim.mp ht with hvariable | hne
  · cases hvariable
  · exact hne hcol

/-- The value of the variable is taken from the first line, but its name is put into the second. -/
theorem threePrints_wrong_line :
    (ofText threePrints).refactorings ⟨⟨0, 2⟩, ⟨0, 3⟩⟩ =
        .ok [⟨.toVariable, [.insert ⟨0, 0⟩ "置 newVar a\n".toList,
          .replace ⟨⟨1, 2⟩, ⟨1, 3⟩⟩ "newVar".toList]⟩] ∧
      (ofText threePrints).resolved ⟨⟨1, 2⟩, ⟨1, 3⟩⟩ ≠
        (ofText threePrints).resolved ⟨⟨0, 2⟩, ⟨0, 3⟩⟩ ∧
      ((ofText threePrints).editedAll [.insert ⟨0, 0⟩ "置 newVar a\n".toList,
          .replace ⟨⟨1, 2⟩, ⟨1, 3⟩⟩ "newVar".toList]).lines =
        ["置 newVar a".toList, "印 a b".toList, "印 newVar".toList, "印 d".toList] := by
  decide +kernel

end Document

end Flowline.Editor
