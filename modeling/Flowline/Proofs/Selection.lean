import Flowline.Proofs.Formatting

/-!
Formatting a selection.

A selection is formatted as if it were a document: at its first line no block and no comment is
open. In a document that formatting has come to in another state, the lines therefore get other
texts. They get the same in three cases: the first line that is laid out leaves the only open block,
there is no such line, or the lines stand in a comment and are left alone both ways.
-/

namespace Flowline.Editor

open Text

/-! ### Two states -/

/-- What formatting has come to after some lines. -/
def reached (layout : Layout) (s : FormatState) (ls : List (List Char)) : FormatState :=
  ls.foldl (fun s l => (formatLine layout s l).1) s

lemma formatLines_append (layout : Layout) (s : FormatState) (ls ms : List (List Char)) :
    formatLines layout s (ls ++ ms) =
      formatLines layout s ls ++ formatLines layout (reached layout s ls) ms := by
  induction ls generalizing s with
  | nil => rfl
  | cons l ls ih => simp only [List.cons_append, formatLines_cons, ih, reached, List.foldl_cons]

lemma length_indented (unit text : List Char) (level : Nat) :
    (indented unit level text).length = level * unit.length + text.length := by
  simp [indented]

lemma indented_inj {unit text : List Char} (hunit : unit ≠ []) {a b : Nat}
    (h : indented unit a text = indented unit b text) : a = b := by
  have hlen := congrArg List.length h
  rw [length_indented, length_indented] at hlen
  exact Nat.eq_of_mul_eq_mul_right (List.length_pos_iff.mpr hunit) (by omega)

/-- The blocks that are open make a difference until a line leaves the only one of them. -/
lemma formatLines_level_iff {unit : List Char} (hunit : unit ≠ []) (level : Nat) (inComment : Bool)
    (ls : List (List Char)) :
    formatLines (.nested unit) ⟨0, inComment⟩ ls =
        formatLines (.nested unit) ⟨level, inComment⟩ ls ↔
      level = 0 ∨
        ∀ text, (laidOut inComment ls).head? = some text → level = 1 ∧ stepsOut text = true := by
  induction ls generalizing inComment with
  | nil => simp [laidOut]
  | cons l ls ih =>
    rw [formatLines_cons, formatLines_cons, List.cons.injEq]
    by_cases hfence : trim isEditorBlank l = fence
    · rw [formatLine_fence hfence, formatLine_fence hfence, laidOut_fence ls hfence, ih]
      exact and_iff_right rfl
    by_cases hblank : trim isEditorBlank l = []
    · rw [formatLine_blank hblank, formatLine_blank hblank, laidOut_blank ls hblank, ih]
      exact and_iff_right rfl
    cases inComment with
    | true =>
      rw [formatLine_comment hblank hfence rfl, formatLine_comment hblank hfence rfl,
        laidOut_comment ls hfence, ih]
      exact and_iff_right rfl
    | false =>
      -- here the two runs lay the line out, each at its own level
      rw [formatLine_code hblank hfence rfl, formatLine_code hblank hfence rfl,
        laidOut_code ls hblank hfence]
      generalize trim isEditorBlank l = text
      simp only [List.head?_cons, Option.some.injEq, forall_eq']
      constructor
      · rintro ⟨htext, -⟩
        have hlevel := indented_inj hunit htext
        unfold standing at hlevel
        split_ifs at hlevel with hout
        · by_cases hzero : level = 0
          · exact .inl hzero
          · exact .inr ⟨by omega, hout⟩
        · exact .inl hlevel.symm
      · rintro (rfl | ⟨rfl, hout⟩)
        · exact ⟨rfl, rfl⟩
        · simp [standing, hout]

/-- A line as it is, but without blanks around it if it is a fence. -/
def tidyFence (l : List Char) : List Char := if trim isEditorBlank l = fence then fence else l

/-- Formatting leaves every line alone, fences apart. -/
def Untouched (layout : Layout) (s : FormatState) (ls : List (List Char)) : Prop :=
  formatLines layout s ls = ls.map tidyFence

/-- Of two runs of which one is in a comment, one leaves the line alone at every step. -/
lemma formatLines_comment_iff (unit : List Char) (a b : Nat) (inComment : Bool)
    (ls : List (List Char)) :
    formatLines (.nested unit) ⟨a, inComment⟩ ls = formatLines (.nested unit) ⟨b, !inComment⟩ ls ↔
      Untouched (.nested unit) ⟨a, inComment⟩ ls ∧ Untouched (.nested unit) ⟨b, !inComment⟩ ls := by
  unfold Untouched
  induction ls generalizing a b inComment with
  | nil => simp
  | cons l ls ih =>
    rw [formatLines_cons, formatLines_cons, List.map_cons, List.cons.injEq, List.cons.injEq,
      List.cons.injEq]
    by_cases hfence : trim isEditorBlank l = fence
    · simp only [formatLine_fence hfence, tidyFence, hfence, if_true, true_and, ih]
    by_cases hblank : trim isEditorBlank l = []
    · have hne : ([] : List Char) ≠ fence := by simp [fence]
      simp only [formatLine_blank hblank, tidyFence, hblank, if_neg hne, true_and, ih]
    -- one of the two lays the line out, so they agree if that changes nothing
    have hsame : tidyFence l = l := if_neg hfence
    rw [hsame]
    cases inComment with
    | true =>
      have htail := ih a (standing (trim isEditorBlank l) b +
        if stepsIn (trim isEditorBlank l) then 1 else 0) true
      rw [formatLine_comment hblank hfence rfl, formatLine_code hblank hfence rfl, htail,
        eq_comm (a := l)]
      tauto
    | false =>
      have htail := ih (standing (trim isEditorBlank l) a +
        if stepsIn (trim isEditorBlank l) then 1 else 0) b false
      rw [formatLine_code hblank hfence rfl, formatLine_comment hblank hfence rfl, htail]
      tauto

/-! ### Selections -/

/-- Lines can be formatted by themselves as they are after others that leave the state `s`. -/
def Resumes (layout : Layout) (s : FormatState) (ls : List (List Char)) : Prop :=
  match layout with
  | .free => True
  | .nested unit =>
    if s.inComment then Untouched (.nested unit) {} ls ∧ Untouched (.nested unit) s ls
    else
      s.level = 0 ∨
        ∀ text, (laidOut false ls).head? = some text → s.level = 1 ∧ stepsOut text = true

lemma formatLines_free (s t : FormatState) (ls : List (List Char)) :
    formatLines .free s ls = formatLines .free t ls := by
  induction ls generalizing s t with
  | nil => rfl
  | cons l ls ih => exact congrArg _ (ih _ _)

theorem formatLines_eq_iff_resumes {layout : Layout} (hu : layout.Usable) (s : FormatState)
    (ls : List (List Char)) :
    formatLines layout {} ls = formatLines layout s ls ↔ Resumes layout s ls := by
  cases layout with
  | free => simp [Resumes, formatLines_free {} s ls]
  | nested unit =>
    obtain ⟨level, inComment⟩ := s
    cases inComment with
    | false => exact formatLines_level_iff hu.1 level false ls
    | true => exact formatLines_comment_iff unit 0 level false ls

/-- Two lists cut alike agree in their middle parts if these are the same. -/
lemma middle_eq_iff {α : Type} {xs ys zs us vs ws : List α} {a c : Nat} (hx : xs.length = a)
    (hu : us.length = a) (hy : ys.length = c) (hv : vs.length = c) :
    (∀ n, a ≤ n → n < a + c → (xs ++ ys ++ zs)[n]? = (us ++ vs ++ ws)[n]?) ↔ ys = vs := by
  have hmiddle : ∀ {ps qs rs : List α} {n : Nat}, ps.length = a → qs.length = c → n < c →
      (ps ++ qs ++ rs)[a + n]? = qs[n]? := by
    intro ps qs rs n hp hq hn
    rw [List.append_assoc, List.getElem?_append_right (by omega), hp, Nat.add_sub_cancel_left,
      List.getElem?_append_left (by omega)]
  constructor
  · intro h
    refine List.ext_getElem? fun n => ?_
    by_cases hn : n < c
    · have := h (a + n) (by omega) (by omega)
      rwa [hmiddle hx hy hn, hmiddle hu hv hn] at this
    · rw [List.getElem?_eq_none (by omega), List.getElem?_eq_none (by omega)]
  · rintro rfl n hle hlt
    obtain ⟨m, rfl⟩ := Nat.exists_eq_add_of_le hle
    rw [hmiddle hx hy (by omega), hmiddle hu hy (by omega)]

namespace Document

def selected (d : Document) (r : Range) : List (List Char) :=
  (d.lines.drop r.start.line).take (r.stop.line + 1 - r.start.line)

/-- What formatting the document has come to before a range. -/
def before (d : Document) (layout : Layout) (r : Range) : FormatState :=
  reached layout {} (d.lines.take r.start.line)

/-- The lines of the formatted document, cut at the ends of a range. -/
lemma lines_formatted_split {d : Document} {layout : Layout} (hd : d.Sound) (hu : layout.Usable)
    (r : Range) :
    ∃ zs, (d.editedAll (d.formatEdits layout 0 d.lines.length)).lines =
      formatLines layout {} (d.lines.take r.start.line) ++
        formatLines layout (d.before layout r) (d.selected r) ++ zs := by
  rw [lines_formatted hd hu]
  conv in formatLines layout {} d.lines =>
    rw [lines_split d r.start.line (r.stop.line + 1 - r.start.line), formatLines_append,
      formatLines_append]
  exact ⟨_, rfl⟩

end Document

open Document in
/-- **Formatting a selection**: its lines get the texts that formatting the document gives them if
and only if they resume what formatting the document has come to before them. -/
theorem selection_agrees_iff (text : String) (o : FormatOptions) (ho : o.Valid) (r : Range)
    (hle : r.start.line ≤ r.stop.line) (hr : r.stop.line < (ofText text).lines.length) :
    ∃ layout whole part, o.layout = .ok layout ∧ (ofText text).format o = .ok whole ∧
      (ofText text).formatRange o r = .ok part ∧
      ((∀ n, r.start.line ≤ n → n ≤ r.stop.line →
          ((ofText text).editedAll part).lines[n]? = ((ofText text).editedAll whole).lines[n]?) ↔
        Resumes layout ((ofText text).before layout r) ((ofText text).selected r)) := by
  have hd := ofText_sound text
  obtain ⟨layout, hlayout, hu⟩ := ho.usable
  refine ⟨layout, _, _, hlayout, format_eq _ hlayout, formatRange_eq hlayout hr, ?_⟩
  obtain ⟨zs, hwhole⟩ := lines_formatted_split hd hu r
  have hpart := lines_editedAll_formatEdits hd hu
    (show r.start.line + (r.stop.line + 1 - r.start.line) ≤ (ofText text).lines.length by omega)
  have hfirst : ((ofText text).lines.take r.start.line).length = r.start.line := by
    rw [List.length_take]
    omega
  have hcount : ∀ s, (formatLines layout s ((ofText text).selected r)).length =
      r.stop.line + 1 - r.start.line := by
    intro s
    rw [length_formatLines, selected, List.length_take, List.length_drop]
    omega
  rw [← formatLines_eq_iff_resumes hu, hwhole, hpart,
    ← middle_eq_iff hfirst ((length_formatLines ..).trans hfirst) (hcount _) (hcount _)]
  refine forall_congr' fun n => forall_congr' fun _ => ?_
  rw [show n ≤ r.stop.line ↔ n < r.start.line + (r.stop.line + 1 - r.start.line) by omega]
  rfl

/-- A choice that is laid out in two columns, and another that is not. -/
def twoChoices : String := "若 真:\n  印 x\n终\n 若 假:\n空\n终"

/-- The lines from a block end to the middle of the next choice. -/
def fromEnd : Range := ⟨⟨2, 0⟩, ⟨4, 1⟩⟩

/-- A selection may begin with the end of the only open block. -/
theorem fromEnd_agrees :
    (⟨0, 2, true⟩ : FormatOptions).Valid ∧ fromEnd.start.line ≤ fromEnd.stop.line ∧
      fromEnd.stop.line < (Document.ofText twoChoices).lines.length ∧
      (Document.ofText twoChoices).before (.nested [' ', ' ']) fromEnd = ⟨1, false⟩ ∧
      ∃ whole part, (Document.ofText twoChoices).format ⟨0, 2, true⟩ = .ok whole ∧
        (Document.ofText twoChoices).formatRange ⟨0, 2, true⟩ fromEnd = .ok part ∧
        ∀ n, fromEnd.start.line ≤ n → n ≤ fromEnd.stop.line →
          ((Document.ofText twoChoices).editedAll part).lines[n]? =
            ((Document.ofText twoChoices).editedAll whole).lines[n]? := by
  have ho : (⟨0, 2, true⟩ : FormatOptions).Valid := ⟨by decide, by decide⟩
  have hle : fromEnd.start.line ≤ fromEnd.stop.line := by decide
  have hline : fromEnd.stop.line < (Document.ofText twoChoices).lines.length := by decide +kernel
  have hbefore : (Document.ofText twoChoices).before (.nested [' ', ' ']) fromEnd = ⟨1, false⟩ := by
    decide +kernel
  have hfirst : (laidOut false ((Document.ofText twoChoices).selected fromEnd)).head? =
      some "终".toList := by decide +kernel
  have hout : stepsOut "终".toList = true := by decide +kernel
  obtain ⟨layout, whole, part, hlayout, hwhole, hpart, hiff⟩ :=
    selection_agrees_iff twoChoices ⟨0, 2, true⟩ ho fromEnd hle hline
  obtain rfl : .nested [' ', ' '] = layout := Except.ok.inj hlayout
  refine ⟨ho, hle, hline, hbefore, whole, part, hwhole, hpart, hiff.mpr ?_⟩
  rw [hbefore]
  refine .inr fun text htext => ⟨rfl, ?_⟩
  rw [hfirst] at htext
  obtain rfl := Option.some.inj htext
  exact hout

def insideChoice : Range := ⟨⟨1, 0⟩, ⟨1, 5⟩⟩

/-- Formatting the document leaves the line in its block, formatting the line takes it out. -/
theorem insideChoice_flattened :
    ∃ whole part, (Document.ofText twoChoices).format ⟨0, 2, true⟩ = .ok whole ∧
      (Document.ofText twoChoices).formatRange ⟨0, 2, true⟩ insideChoice = .ok part ∧
      ((Document.ofText twoChoices).editedAll whole).lines[1]? = some "  印 x".toList ∧
      ((Document.ofText twoChoices).editedAll part).lines[1]? = some "印 x".toList ∧
      ((Document.ofText twoChoices).editedAll part).lines[1]? ≠
        ((Document.ofText twoChoices).editedAll whole).lines[1]? := by
  refine ⟨[.replace ⟨⟨3, 0⟩, ⟨3, 5⟩⟩ "若 假:".toList, .replace ⟨⟨4, 0⟩, ⟨4, 1⟩⟩ "  空".toList],
    [.replace ⟨⟨1, 0⟩, ⟨1, 5⟩⟩ "印 x".toList], ?_, ?_, ?_, ?_, ?_⟩
  all_goals decide +kernel

end Flowline.Editor
