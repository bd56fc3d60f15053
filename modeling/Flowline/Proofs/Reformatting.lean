import Flowline.Proofs.Formatting

/-!
Formatting twice.

A line keeps its text between the blanks when it is formatted, so a second run finds every line in
the role it had and goes through the same levels and comments as the first. What it then asks for is
what stands there already: a text at its level, a bare fence, or a line that was left alone because
it is blank or inside a comment.
-/

namespace Flowline.Editor

open Text

variable {layout : Layout}

/-- A formatted line is left as it is, and leads to the state that the line led to. -/
lemma formatLine_formatLine (hu : layout.Usable) (s : FormatState) (l : List Char) :
    formatLine layout s (formatLine layout s l).2 = formatLine layout s l := by
  cases layout with
  | free => exact congrArg (Prod.mk s) (trimEnd_trimEnd isEditorBlank l)
  | nested unit =>
    have htrim := trim_formatLine hu s l
    by_cases hblank : trim isEditorBlank l = []
    · rw [formatLine_blank hblank, formatLine_blank hblank]
    by_cases hfence : trim isEditorBlank l = fence
    · rw [hfence] at htrim
      rw [formatLine_fence htrim, formatLine_fence hfence]
    rcases hs : s.inComment with _ | _
    · -- the role and the level are those of the text, which has not changed
      have hblank' : trim isEditorBlank (formatLine (.nested unit) s l).2 ≠ [] := by rwa [htrim]
      have hfence' : trim isEditorBlank (formatLine (.nested unit) s l).2 ≠ fence := by rwa [htrim]
      rw [formatLine_code hblank' hfence' hs, htrim, formatLine_code hblank hfence hs]
    · rw [formatLine_comment hblank hfence hs, formatLine_comment hblank hfence hs]

/-- Lines that were formatted from some state are left as they are from that state. -/
lemma formatLines_formatLines (hu : layout.Usable) (s : FormatState) (ls : List (List Char)) :
    formatLines layout s (formatLines layout s ls) = formatLines layout s ls := by
  induction ls generalizing s with
  | nil => rfl
  | cons l ls ih =>
    rw [formatLines_cons, formatLines_cons, formatLine_formatLine hu, ih]

namespace Document

lemma lineEdits_self (d : Document) (first : Nat) (ls : List (List Char)) :
    d.lineEdits first ls ls = [] := by
  induction ls generalizing first with
  | nil => rfl
  | cons l ls ih => rw [lineEdits_cons, if_pos rfl, ih, List.append_nil]

variable {d : Document} {first count : Nat}

lemma selected_editedAll (hd : d.Sound) (hu : layout.Usable)
    (hfit : first + count ≤ d.lines.length) :
    ((d.editedAll (d.formatEdits layout first count)).lines.drop first).take count =
      formatLines layout {} ((d.lines.drop first).take count) := by
  have hfirst : (d.lines.take first).length = first := by
    rw [List.length_take]
    omega
  have hcount : (formatLines layout {} ((d.lines.drop first).take count)).length = count := by
    rw [length_formatLines, List.length_take, List.length_drop]
    omega
  rw [lines_editedAll_formatEdits hd hu hfit, List.append_assoc, List.drop_left' hfirst,
    List.take_left' hcount]

lemma formatEdits_editedAll (hd : d.Sound) (hu : layout.Usable)
    (hfit : first + count ≤ d.lines.length) :
    (d.editedAll (d.formatEdits layout first count)).formatEdits layout first count = [] := by
  rw [formatEdits_eq, selected_editedAll hd hu hfit, formatLines_formatLines hu, lineEdits_self]

lemma formatEdits_none (d : Document) (layout : Layout) (first : Nat) :
    d.formatEdits layout first 0 = [] := by
  simp [formatEdits_eq, lineEdits]

lemma length_lines_editedAll (hd : d.Sound) (hu : layout.Usable)
    (hfit : first + count ≤ d.lines.length) :
    (d.editedAll (d.formatEdits layout first count)).lines.length = d.lines.length :=
  (formatEdits_keeps hd hu hfit).2.length

end Document

open Document in
/-- **Formatting twice**: when the whole of a document or a range of its lines has been formatted,
formatting the same lines again with the same options asks for no edit. -/
theorem formatting_settles (text : String) (o : FormatOptions) (ho : o.Valid) :
    (∃ es, (ofText text).format o = .ok es ∧ ((ofText text).editedAll es).format o = .ok []) ∧
    ∀ r again : Range, r.stop.line < (ofText text).lines.length →
      again.start.line = r.start.line → again.stop.line = r.stop.line →
      ∃ es, (ofText text).formatRange o r = .ok es ∧
        ((ofText text).editedAll es).formatRange o again = .ok [] := by
  have hd := ofText_sound text
  obtain ⟨layout, hlayout, hu⟩ := ho.usable
  constructor
  · have hfit : 0 + (ofText text).lines.length ≤ (ofText text).lines.length := by omega
    refine ⟨_, format_eq _ hlayout, ?_⟩
    rw [format_eq _ hlayout, length_lines_editedAll hd hu hfit, formatEdits_editedAll hd hu hfit]
  · intro r again hr hstart hstop
    refine ⟨_, formatRange_eq hlayout hr, ?_⟩
    by_cases hle : r.start.line ≤ r.stop.line
    · have hfit : r.start.line + (r.stop.line + 1 - r.start.line) ≤ (ofText text).lines.length := by
        omega
      have hagain : again.stop.line < ((ofText text).editedAll ((ofText text).formatEdits layout
          r.start.line (r.stop.line + 1 - r.start.line))).lines.length := by
        rwa [length_lines_editedAll hd hu hfit, hstop]
      rw [formatRange_eq hlayout hagain, hstart, hstop, formatEdits_editedAll hd hu hfit]
    · -- a range whose ends are not in order has no line
      have hcount : r.stop.line + 1 - r.start.line = 0 := by omega
      have hsame : (ofText text).editedAll [] = ofText text := rfl
      rw [hcount, formatEdits_none, hsame, formatRange_eq hlayout (by omega), hstart, hstop, hcount,
        formatEdits_none]

/-- Two choices with blanks of several kinds around their lines, and a comment between them. -/
def raggedChoices : String :=
  "若 真:\n\u3000印 x \n ~~\n  若 note:\n~~\t\n \t\n\t若 假:\n空\ufeff\n终 # 完"

def raggedPart : Range := ⟨⟨1, 2⟩, ⟨7, 0⟩⟩

/-- The edits for them. The line in the comment and the blank one are left alone. -/
def raggedEdits : List Edit :=
  [.replace ⟨⟨1, 0⟩, ⟨1, 5⟩⟩ "印 x".toList, .replace ⟨⟨2, 0⟩, ⟨2, 3⟩⟩ "~~".toList,
    .replace ⟨⟨4, 0⟩, ⟨4, 3⟩⟩ "~~".toList, .replace ⟨⟨6, 0⟩, ⟨6, 5⟩⟩ "若 假:".toList,
    .replace ⟨⟨7, 0⟩, ⟨7, 2⟩⟩ "  空".toList]

theorem raggedChoices_settle :
    (⟨0, 2, true⟩ : FormatOptions).Valid ∧
      raggedPart.stop.line < (Document.ofText raggedChoices).lines.length ∧
      (Document.ofText raggedChoices).formatRange ⟨0, 2, true⟩ raggedPart = .ok raggedEdits ∧
      ((Document.ofText raggedChoices).editedAll raggedEdits).formatRange ⟨0, 2, true⟩
        ⟨⟨1, 0⟩, ⟨7, 3⟩⟩ = .ok [] := by
  have ho : (⟨0, 2, true⟩ : FormatOptions).Valid := ⟨by decide, by decide⟩
  have hline : raggedPart.stop.line < (Document.ofText raggedChoices).lines.length := by
    decide +kernel
  have hes : (Document.ofText raggedChoices).formatRange ⟨0, 2, true⟩ raggedPart =
      .ok raggedEdits := by decide +kernel
  obtain ⟨es, heq, hagain⟩ :=
    (formatting_settles raggedChoices ⟨0, 2, true⟩ ho).2 raggedPart ⟨⟨1, 0⟩, ⟨7, 3⟩⟩ hline rfl rfl
  obtain rfl := Except.ok.inj (hes.symm.trans heq)
  exact ⟨ho, hline, hes, hagain⟩

end Flowline.Editor
