import Flowline.Editor.Analysis
import Flowline.Editor.Format
import Flowline.Proofs.Edits

/-!
Formatting changes no program.

A line is read through its text without the blanks around it, and blanks around a line are all that
formatting changes. So whatever it believes of the lines it is given, be they inside a comment or
inside a block that it has not seen, the formatted document is read as the document was.
-/

namespace Flowline

open Text

/-! ### Blanks around a line -/

section

variable {p : Char → Bool}

/-- A line is read through what is left of it without the blanks around it. -/
lemma readLine_of_trim_eq {l m : List Char} (h : trim p l = trim p m) (b : Bool) :
    readLine p b l = readLine p b m := by
  unfold readLine
  rw [h]

lemma readLines_of_trim_eq {ls ms : List (List Char)} (h : ls.map (trim p) = ms.map (trim p))
    (b : Bool) : readLines p b ls = readLines p b ms := by
  induction ls generalizing ms b with
  | nil =>
    rcases ms with _ | ⟨m, ms⟩
    · rfl
    · simp at h
  | cons l ls ih =>
    rcases ms with _ | ⟨m, ms⟩
    · simp at h
    · obtain ⟨hl, hls⟩ := List.cons.inj h
      rw [readLines_cons, readLines_cons, readLine_of_trim_eq hl, ih hls]

lemma commentOpen_of_trim_eq {ls ms : List (List Char)}
    (h : ls.map (trim p) = ms.map (trim p)) : commentOpen p ls = commentOpen p ms := by
  have hstep : ∀ (b : Bool) (l : List Char),
      (readLine p b l).1 = (readLine p b (trim p l)).1 := fun b l => by
    rw [readLine_of_trim_eq (trim_trim p l)]
  have hfold : ∀ ks : List (List Char), commentOpen p ks =
      (ks.map (trim p)).foldl (fun b l => (readLine p b l).1) false := by
    intro ks
    simp only [commentOpen, List.foldl_map, ← hstep]
  rw [hfold, hfold, h]

end

namespace Editor

/-! ### The layout -/

structure FormatOptions.Valid (o : FormatOptions) : Prop where
  indentSize : 0 ≤ o.indentSize
  tabSize : 1 ≤ o.tabSize

/-- A layout whose unit, if it has one, shows. -/
def Layout.Usable : Layout → Prop
  | .free => True
  | .nested unit => unit ≠ [] ∧ ∀ c ∈ unit, c = ' ' ∨ c = '\t'

def FormatOptions.width (o : FormatOptions) : Nat :=
  if 0 < o.indentSize then o.indentSize.toNat else o.tabSize.toNat

lemma FormatOptions.Valid.width_pos {o : FormatOptions} (ho : o.Valid) : 0 < o.width := by
  have := ho.tabSize
  unfold width
  split_ifs <;> omega

lemma FormatOptions.Valid.layout_of_spaces {o : FormatOptions} (ho : o.Valid)
    (hs : o.insertSpaces = true) : o.layout = .ok (.nested (List.replicate o.width ' ')) := by
  have htab := ho.tabSize
  unfold layout width
  by_cases hsize : 0 < o.indentSize
  · have hne : ¬ o.indentSize = 0 := by omega
    have hneg : ¬ o.indentSize < 0 := by omega
    simp [hs, hsize, hne, hneg]
  · have hne : ¬ o.tabSize = 0 := by omega
    have hneg : ¬ o.tabSize < 0 := by omega
    simp [hs, hsize, hne, hneg]

lemma FormatOptions.Valid.usable {o : FormatOptions} (ho : o.Valid) :
    ∃ layout, o.layout = .ok layout ∧ layout.Usable := by
  rcases hs : o.insertSpaces with _ | _
  · unfold FormatOptions.layout
    simp only [hs, Bool.not_false, if_true, Bool.false_eq_true, if_false]
    split_ifs
    all_goals exact ⟨_, rfl, by simp [Layout.Usable]⟩
  · refine ⟨_, ho.layout_of_spaces hs, ?_, fun c hc => .inl (List.eq_of_mem_replicate hc)⟩
    have := ho.width_pos
    simp only [ne_eq, List.replicate_eq_nil_iff]
    omega

/-! ### What a line does -/

/-- Whether a line stands one level further out than the lines before it. -/
def stepsOut (text : List Char) : Bool :=
  text.head? != some '#' && (roleOf text == .close || roleOf text == .clause)

/-- Whether the lines after it stand one level further in than it does. -/
def stepsIn (text : List Char) : Bool :=
  text.head? != some '#' && (roleOf text == .clause || roleOf text == .open_)

/-- The level at which a line stands. -/
def standing (text : List Char) (level : Nat) : Nat :=
  if stepsOut text then level - 1 else level

def fence : List Char := ['~', '~']

section

variable {unit l : List Char} {s : FormatState}

lemma formatLine_blank (h : trim isEditorBlank l = []) :
    formatLine (.nested unit) s l = (s, l) := by
  simp [formatLine, h]

lemma formatLine_fence (h : trim isEditorBlank l = fence) :
    formatLine (.nested unit) s l = ({ s with inComment := !s.inComment }, fence) := by
  simp [formatLine, h, fence]

lemma formatLine_comment (hne : trim isEditorBlank l ≠ []) (hfence : trim isEditorBlank l ≠ fence)
    (hs : s.inComment = true) : formatLine (.nested unit) s l = (s, l) := by
  unfold fence at hfence
  simp [formatLine, hne, hfence, hs]

lemma formatLine_code (hne : trim isEditorBlank l ≠ []) (hfence : trim isEditorBlank l ≠ fence)
    (hs : s.inComment = false) :
    formatLine (.nested unit) s l =
      ({ s with
          level := standing (trim isEditorBlank l) s.level +
            if stepsIn (trim isEditorBlank l) then 1 else 0 },
        indented unit (standing (trim isEditorBlank l) s.level) (trim isEditorBlank l)) := by
  obtain ⟨level, inComment⟩ := s
  obtain rfl : inComment = false := hs
  unfold fence at hfence
  unfold formatLine standing stepsOut stepsIn
  generalize trim isEditorBlank l = text at hne hfence
  have hnonempty : text.isEmpty = false := by simpa using hne
  by_cases hhash : text.head? = some '#'
  · simp [hnonempty, hfence, hhash]
  · cases hrole : roleOf text <;> simp [hnonempty, hfence, hhash, hrole]

end

/-- The lines that are laid out, without the blanks around them: those that are neither blank nor a
fence and stand in no comment between fences. -/
def laidOut : Bool → List (List Char) → List (List Char)
  | _, [] => []
  | inComment, l :: ls =>
    let text := trim isEditorBlank l
    if text = fence then laidOut (!inComment) ls
    else if text.isEmpty || inComment then laidOut inComment ls
    else text :: laidOut inComment ls

section

variable {l : List Char} (ls : List (List Char))

lemma laidOut_fence (h : trim isEditorBlank l = fence) (inComment : Bool) :
    laidOut inComment (l :: ls) = laidOut (!inComment) ls := by
  simp [laidOut, h]

lemma laidOut_blank (h : trim isEditorBlank l = []) (inComment : Bool) :
    laidOut inComment (l :: ls) = laidOut inComment ls := by
  simp [laidOut, h, fence]

lemma laidOut_comment (h : trim isEditorBlank l ≠ fence) :
    laidOut true (l :: ls) = laidOut true ls := by
  simp [laidOut, h]

lemma laidOut_code (hne : trim isEditorBlank l ≠ []) (hfence : trim isEditorBlank l ≠ fence) :
    laidOut false (l :: ls) = trim isEditorBlank l :: laidOut false ls := by
  simp [laidOut, hne, hfence]

end

/-! ### The new text of a line -/

lemma mem_of_mem_indented {unit text : List Char} {level : Nat} {c : Char}
    (h : c ∈ indented unit level text) : c ∈ unit ∨ c ∈ text := by
  simp only [indented, List.mem_append, List.mem_flatten, List.mem_replicate] at h
  rcases h with ⟨_, ⟨-, rfl⟩, hc⟩ | hc
  · exact .inl hc
  · exact .inr hc

lemma trim_indented {unit : List Char} (hunit : ∀ c ∈ unit, c = ' ' ∨ c = '\t') (level : Nat)
    (text : List Char) :
    trim isEditorBlank (indented unit level text) = trim isEditorBlank text := by
  refine trim_blank_append (fun b hb => ?_) text
  obtain ⟨u, hu, hbu⟩ := List.mem_flatten.mp hb
  obtain rfl := (List.mem_replicate.mp hu).2
  rcases hunit b hbu with rfl | rfl <;> decide

/-- The new text of a line in an indented layout: the line as it is, or its text at some level. -/
lemma formatLine_nested (unit : List Char) (s : FormatState) (l : List Char) :
    (formatLine (.nested unit) s l).2 = l ∨
      ∃ level, (formatLine (.nested unit) s l).2 = indented unit level (trim isEditorBlank l) := by
  by_cases hblank : trim isEditorBlank l = []
  · exact .inl (by rw [formatLine_blank hblank])
  by_cases hfence : trim isEditorBlank l = fence
  · exact .inr ⟨0, by rw [formatLine_fence hfence, hfence]; rfl⟩
  rcases hs : s.inComment with _ | _
  · exact .inr ⟨_, by rw [formatLine_code hblank hfence hs]⟩
  · exact .inl (by rw [formatLine_comment hblank hfence hs])

variable {layout : Layout}

lemma trim_formatLine (hu : layout.Usable) (s : FormatState) (l : List Char) :
    trim isEditorBlank (formatLine layout s l).2 = trim isEditorBlank l := by
  cases layout with
  | free => exact trim_trimEnd isEditorBlank l
  | nested unit =>
    rcases formatLine_nested unit s l with h | ⟨level, h⟩
    · rw [h]
    · rw [h, trim_indented hu.2, trim_trim]

lemma unbroken_formatLine (hu : layout.Usable) (s : FormatState) {l : List Char}
    (hl : Unbroken l) : Unbroken (formatLine layout s l).2 := by
  cases layout with
  | free => exact hl.of_subset fun c hc => mem_of_mem_trimEnd hc
  | nested unit =>
    have hunit : Unbroken unit :=
      ⟨fun hm => by simpa using hu.2 _ hm, fun hm => by simpa using hu.2 _ hm⟩
    rcases formatLine_nested unit s l with h | ⟨level, h⟩
    · rwa [h]
    · rw [h]
      refine (hunit.append hl).of_subset fun c hc => ?_
      rcases mem_of_mem_indented hc with hc | hc
      · exact List.mem_append_left l hc
      · exact List.mem_append_right unit (mem_of_mem_trim hc)

/-! ### All lines -/

@[simp] lemma formatLines_nil (layout : Layout) (s : FormatState) :
    formatLines layout s [] = [] := rfl

@[simp] lemma formatLines_cons (layout : Layout) (s : FormatState) (l : List Char)
    (ls : List (List Char)) :
    formatLines layout s (l :: ls) =
      (formatLine layout s l).2 :: formatLines layout (formatLine layout s l).1 ls := rfl

@[simp] lemma length_formatLines (layout : Layout) (s : FormatState) (ls : List (List Char)) :
    (formatLines layout s ls).length = ls.length := by
  induction ls generalizing s with
  | nil => rfl
  | cons l ls ih => simp [ih]

lemma trim_formatLines (hu : layout.Usable) (s : FormatState) (ls : List (List Char)) :
    (formatLines layout s ls).map (trim isEditorBlank) = ls.map (trim isEditorBlank) := by
  induction ls generalizing s with
  | nil => rfl
  | cons l ls ih => rw [formatLines_cons, List.map_cons, List.map_cons, trim_formatLine hu, ih]

lemma unbroken_formatLines (hu : layout.Usable) (s : FormatState) {ls : List (List Char)}
    (hls : ∀ l ∈ ls, Unbroken l) : ∀ t ∈ formatLines layout s ls, Unbroken t := by
  induction ls generalizing s with
  | nil => simp
  | cons l ls ih =>
    intro t ht
    rcases List.mem_cons.mp ht with rfl | ht
    · exact unbroken_formatLine hu s (hls l (by simp))
    · exact ih _ (fun k hk => hls k (List.mem_cons_of_mem l hk)) t ht

/-! ### Formatted documents -/

namespace Document

variable {d : Document} {first count : Nat}

lemma formatEdits_eq (d : Document) (layout : Layout) (first count : Nat) :
    d.formatEdits layout first count =
      d.lineEdits first ((d.lines.drop first).take count)
        (formatLines layout {} ((d.lines.drop first).take count)) := rfl

lemma lines_split (d : Document) (first count : Nat) :
    d.lines = d.lines.take first ++ (d.lines.drop first).take count ++
      d.lines.drop (first + count) := by
  rw [List.append_assoc, ← List.drop_drop, List.take_append_drop, List.take_append_drop]

lemma unbroken_formatted (hd : d.Sound) (hu : layout.Usable) (s : FormatState)
    (first count : Nat) :
    ∀ t ∈ formatLines layout s ((d.lines.drop first).take count), Unbroken t :=
  unbroken_formatLines hu s fun l hl =>
    hd.unbroken l (List.drop_subset _ _ (List.take_subset _ _ hl))

/-- The lines of a document of which `count` lines from `first` on were formatted. -/
theorem lines_editedAll_formatEdits (hd : d.Sound) (hu : layout.Usable)
    (hfit : first + count ≤ d.lines.length) :
    (d.editedAll (d.formatEdits layout first count)).lines =
      d.lines.take first ++ formatLines layout {} ((d.lines.drop first).take count) ++
        d.lines.drop (first + count) := by
  have hfirst : (d.lines.take first).length = first := by
    rw [List.length_take]
    omega
  have hedited := editedAll_lineEdits hd (lines_split d first count) (length_formatLines ..)
    (unbroken_formatted hd hu {} first count)
  rw [hfirst] at hedited
  rw [formatEdits_eq, hedited]

/-- The lines of a document that was formatted as a whole. -/
lemma lines_formatted (hd : d.Sound) (hu : layout.Usable) :
    (d.editedAll (d.formatEdits layout 0 d.lines.length)).lines =
      formatLines layout {} d.lines := by
  have hlines := lines_editedAll_formatEdits hd hu (Nat.le_of_eq (Nat.zero_add d.lines.length))
  simpa using hlines

/-- Two documents that the editor reads alike, line by line. -/
structure SameReading (d e : Document) : Prop where
  length : e.lines.length = d.lines.length
  tokens : tokens e.text = tokens d.text
  warnings : warnings e.text = warnings d.text
  analysis : analyze e.text = analyze d.text

lemma sameReading_of_trim_eq {d e : Document} (hd : d.Sound) (he : e.Sound)
    (h : e.lines.map (trim isEditorBlank) = d.lines.map (trim isEditorBlank)) :
    SameReading d e := by
  have hlength : e.lines.length = d.lines.length := by
    simpa using congrArg List.length h
  have hreadings : readings e.text = readings d.text := by
    unfold readings
    rw [editorLines_text hd, editorLines_text he, readLines_of_trim_eq h]
  have htokens : Editor.tokens e.text = Editor.tokens d.text := by
    unfold Editor.tokens
    rw [hreadings]
  have hwarnings : Editor.warnings e.text = Editor.warnings d.text := by
    unfold Editor.warnings
    rw [hreadings, editorLines_text hd, editorLines_text he, commentOpen_of_trim_eq h, hlength]
  refine ⟨hlength, htokens, hwarnings, ?_⟩
  unfold analyze
  rw [htokens, hwarnings]

/-- What formatting some lines of a document does. -/
lemma formatEdits_keeps (hd : d.Sound) (hu : layout.Usable)
    (hfit : first + count ≤ d.lines.length) :
    d.WholeLines (d.formatEdits layout first count) ∧
      SameReading d (d.editedAll (d.formatEdits layout first count)) := by
  have hselected : first + ((d.lines.drop first).take count).length ≤ d.lines.length := by
    rw [List.length_take, List.length_drop]
    omega
  have hlines := lines_editedAll_formatEdits hd hu hfit
  have hunbroken := unbroken_formatted hd hu {} first count
  have htrim : (d.editedAll (d.formatEdits layout first count)).lines.map (trim isEditorBlank) =
      d.lines.map (trim isEditorBlank) := by
    rw [hlines]
    conv_rhs => rw [lines_split d first count]
    simp only [List.map_append, trim_formatLines hu]
  refine ⟨wholeLines_lineEdits hselected hunbroken, sameReading_of_trim_eq hd ?_ htrim⟩
  refine ⟨fun hnil => hd.nonempty ?_, fun l hl => ?_⟩
  · rw [hnil, List.map_nil] at htrim
    exact List.map_eq_nil_iff.mp htrim.symm
  · rw [hlines, List.mem_append, List.mem_append] at hl
    rcases hl with (hl | hl) | hl
    · exact hd.unbroken l (List.take_subset _ _ hl)
    · exact hunbroken l hl
    · exact hd.unbroken l (List.drop_subset _ _ hl)

lemma format_eq {o : FormatOptions} (d : Document) (ho : o.layout = .ok layout) :
    d.format o = .ok (d.formatEdits layout 0 d.lines.length) := by
  unfold format
  rw [ho]
  rfl

lemma formatRange_eq {o : FormatOptions} {d : Document} {r : Range} (ho : o.layout = .ok layout)
    (hr : r.stop.line < d.lines.length) :
    d.formatRange o r =
      .ok (d.formatEdits layout r.start.line (r.stop.line + 1 - r.start.line)) := by
  have hline : ¬ d.lines.length ≤ r.stop.line := by omega
  unfold formatRange
  rw [ho]
  simp only [bind, Except.bind, if_neg hline]
  rfl

end Document

open Document in
/-- **Formatting changes no program**: in every document, for the whole of it and for every range of
its lines, the edits replace whole lines by unbroken texts, from the top to the bottom and none
twice, and the document that they lead to has as many lines and is read as before. -/
theorem formatting_keeps_reading (text : String) (o : FormatOptions) (ho : o.Valid) :
    (∃ es, (ofText text).format o = .ok es ∧ (ofText text).WholeLines es ∧
      SameReading (ofText text) ((ofText text).editedAll es)) ∧
    ∀ r : Range, r.stop.line < (ofText text).lines.length →
      ∃ es, (ofText text).formatRange o r = .ok es ∧ (ofText text).WholeLines es ∧
        SameReading (ofText text) ((ofText text).editedAll es) := by
  have hd := ofText_sound text
  obtain ⟨layout, hlayout, hu⟩ := ho.usable
  refine ⟨⟨_, format_eq _ hlayout, formatEdits_keeps hd hu (by omega)⟩, fun r hr => ?_⟩
  refine ⟨_, formatRange_eq hlayout hr, ?_⟩
  by_cases hle : r.start.line ≤ r.stop.line
  · exact formatEdits_keeps hd hu (by omega)
  · -- a range whose ends are not in order has no line
    have hcount : r.stop.line + 1 - r.start.line = 0 := by omega
    have hnone : (ofText text).formatEdits layout r.start.line 0 =
        (ofText text).formatEdits layout 0 0 := by
      simp [formatEdits_eq, lineEdits]
    rw [hcount, hnone]
    exact formatEdits_keeps hd hu (by omega)

def notedChoice : String := "若 真:\n印 x  \n~~\n  若 note:\n  x\n~~\n\t终 # 完\n"

def notedEdits : List Edit :=
  [.replace ⟨⟨3, 0⟩, ⟨3, 9⟩⟩ "若 note:".toList, .replace ⟨⟨4, 0⟩, ⟨4, 3⟩⟩ "    x".toList]

/-- There, comment is taken for code and code for comment. -/
theorem notedChoice_formatted :
    (⟨0, 4, true⟩ : FormatOptions).Valid ∧ 6 < (Document.ofText notedChoice).lines.length ∧
      (Document.ofText notedChoice).formatRange ⟨0, 4, true⟩ ⟨⟨3, 1⟩, ⟨6, 0⟩⟩ = .ok notedEdits ∧
      (Document.ofText notedChoice).WholeLines notedEdits ∧
      Document.SameReading (Document.ofText notedChoice)
        ((Document.ofText notedChoice).editedAll notedEdits) := by
  have ho : (⟨0, 4, true⟩ : FormatOptions).Valid := ⟨by decide, by decide⟩
  have hline : 6 < (Document.ofText notedChoice).lines.length := by decide +kernel
  have hes : (Document.ofText notedChoice).formatRange ⟨0, 4, true⟩ ⟨⟨3, 1⟩, ⟨6, 0⟩⟩ =
      .ok notedEdits := by decide +kernel
  obtain ⟨es, heq, hwhole, hsame⟩ :=
    (formatting_keeps_reading notedChoice ⟨0, 4, true⟩ ho).2 ⟨⟨3, 1⟩, ⟨6, 0⟩⟩ hline
  obtain rfl := Except.ok.inj (hes.symm.trans heq)
  exact ⟨ho, hline, hes, hwhole, hsame⟩

end Editor

end Flowline
