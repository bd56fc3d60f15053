import Flowline.Proofs.Extraction

/-!
Extracting a variable: what becomes of the words of the line.

The value of the variable is the selected text without the blanks around it, but its name takes the
place of all that is selected. Where the selection takes in the blanks next to a word outside it, the
name is put right at that word, and the two are read as one.
-/

namespace Flowline

open Text

/-! ### A word put into a line -/

namespace Token

lemma ofWords_append {ws : List String} {t : Token} (h : ofWords ws = some t) (vs : List String) :
    ofWords (ws ++ vs) = some ⟨t.action, t.args ++ vs, t.state⟩ := by
  rw [ofWords_eq_some_iff] at h ⊢
  rcases h with ⟨rfl, hstate⟩ | ⟨rfl, haction, hstate⟩
  · exact .inl ⟨rfl, hstate⟩
  · exact .inr ⟨rfl, haction, hstate⟩

lemma args_suffix {ws : List String} {t : Token} (h : ofWords ws = some t) : t.args <:+ ws := by
  rcases ofWords_eq_some_iff.mp h with ⟨rfl, -⟩ | ⟨rfl, -, -⟩
  · exact (List.suffix_cons ..).trans (List.suffix_cons ..)
  · exact List.suffix_cons ..

end Token

lemma eq_of_cons_suffix {α : Type} {x y : α} {xs ys : List α} (h : x :: ys <:+ xs ++ y :: ys) :
    x = y := by
  obtain ⟨zs, hzs⟩ := h
  exact (List.cons.inj (List.append_inj' hzs (by simp)).2).1

/-- A word put into a line after the mark, the action and some arguments is one of the arguments if and
only if there are blanks on both sides of it. -/
lemma ofWords_put_iff {p : Char → Bool} {before w after : List Char} {t : Token}
    (hlead : Token.ofWords ((words p before).map String.ofList) = some t) (hne : w ≠ [])
    (hw : ∀ c ∈ w, p c = false) :
    Token.ofWords ((words p (before ++ w ++ after)).map String.ofList) =
        some ⟨t.action, t.args ++ String.ofList w :: (words p after).map String.ofList, t.state⟩ ↔
      (∀ c ∈ before.getLast?, p c = true) ∧ ∀ c ∈ after.head?, p c = true := by
  constructor
  · intro h
    obtain ⟨bs, u, rfl, hbs, hu⟩ := exists_last_run p before
    obtain ⟨v, cs, rfl, hv, hcs⟩ := exists_first_run p after
    -- the word that is read is the one put in, with what it touches on either side
    have hwords : words p (bs ++ u ++ w ++ (v ++ cs)) =
        words p bs ++ (u ++ w ++ v) :: words p cs := by
      have hrun := words_run (w := u ++ w ++ v) hbs (by simp [hne])
        (by simpa only [List.forall_mem_append] using ⟨⟨hu, hw⟩, hv⟩) hcs
      simpa only [List.append_assoc] using hrun
    have hlast := (List.suffix_append t.args _).trans (Token.args_suffix h)
    rw [hwords, List.map_append, List.map_cons] at hlast
    rcases v with _ | ⟨c, v⟩
    · have hword := String.ofList_injective (eq_of_cons_suffix hlast)
      obtain rfl : u = [] := by simpa using hword
      exact ⟨by simpa using hbs, hcs⟩
    · -- the word after the one put in would have to be read twice
      rw [words_word_append (List.cons_ne_nil c v) hv hcs, List.map_cons] at hlast
      have hword := String.ofList_injective (eq_of_cons_suffix ((List.suffix_cons ..).trans hlast))
      exact absurd (List.self_eq_append_left.mp hword) (by simp [hne])
  · rintro ⟨hbefore, hafter⟩
    rw [words_run hbefore hne hw hafter, List.map_append, List.map_cons,
      Token.ofWords_append hlead]

namespace Editor.Document

variable {d : Document} {r : Range} {before selected after : List Char} {t : Token}

/-- A selection of arguments: a part of a line without a comment, with at least one word, that cuts no
word and comes after the mark, the action and the first arguments. The blanks around the words may be
selected too. -/
structure SelectsArguments (d : Document) (r : Range) (before selected after : List Char) (t : Token) :
    Prop where
  same : r.start.line = r.stop.line
  start : d.Cuts r.start r.start.line before (selected ++ after)
  stop : d.Cuts r.stop r.start.line (before ++ selected) after
  code : '#' ∉ before ++ selected ++ after
  nonempty : words isEditorBlank selected ≠ []
  whole : words isEditorBlank (before ++ selected ++ after) =
    words isEditorBlank before ++ words isEditorBlank selected ++ words isEditorBlank after
  lead : Token.ofWords ((words isEditorBlank before).map String.ofList) = some t

/-- A cut is found again as many lines further down as lines have been put in above it. -/
lemma Cuts.down {p : Position} {n k : Nat} {left right : List Char} (h : d.Cuts p n left right)
    (hp : p.line = n) (hk : k ≤ n) (ls : List (List Char)) :
    (d.withInserted k ls).Cuts (p.down ls.length) (n + ls.length) left right := by
  subst hp
  have hn := h.lt_length
  have hlength := length_withInserted (d := d) (n := k) (by omega) ls
  have hline : (d.withInserted k ls).lineD (p.line + ls.length) = d.lineD p.line :=
    lineD_withInserted hk (by omega)
  refine ⟨?_, ?_⟩
  · rw [List.getElem?_eq_getElem (by omega), ← lineD_of_lt (by omega), hline, h.lineD_eq]
  · have hplace := h.place
    rw [clamp_of_lt hn] at hplace
    rw [clamp_of_lt (by rw [Position.down]; dsimp only; omega), Position.down, hline]
    rw [Position.mk.injEq] at hplace ⊢
    exact ⟨rfl, hplace.2⟩

namespace SelectsArguments

variable (h : d.SelectsArguments r before selected after t)
include h

lemma slice_eq : d.slice r = selected := h.start.slice_between h.stop

lemma trim_ne : trim isEditorBlank selected ≠ trim isEditorBlank (before ++ selected ++ after) := by
  intro heq
  have hwords := congrArg (words isEditorBlank) heq
  rw [words_trim, words_trim, h.whole] at hwords
  have hlength := congrArg List.length hwords
  have hbefore : words isEditorBlank before ≠ [] := by
    intro hnil
    have hlead := h.lead
    rw [hnil] at hlead
    cases hlead
  have hpos := List.length_pos_iff.mpr hbefore
  simp only [List.length_append] at hlength
  omega

lemma refactorings_eq :
    ∃ xs, d.refactorings r = .ok (d.extractVariable r (trim isEditorBlank selected) :: xs) := by
  have hne : trim isEditorBlank selected ≠ [] := by
    intro hnil
    have hwords := words_trim isEditorBlank selected
    rw [hnil, words_nil] at hwords
    exact h.nonempty hwords.symm
  have hempty : r.isEmpty = false := by
    rw [Range.isEmpty, beq_eq_false_iff_ne]
    intro heq
    have hslice := h.slice_eq
    rw [slice, heq] at hslice
    simp only [if_true, Nat.sub_self, takeUnits_zero] at hslice
    exact h.nonempty (by rw [← hslice, words_nil])
  have hline : d.lineD r.start.line = before ++ selected ++ after := h.stop.lineD_eq
  unfold refactorings
  rw [h.slice_eq, hline]
  simp only [hempty, List.isEmpty_iff, hne, h.same, h.trim_ne, Bool.false_or, if_false, if_true]
  exact ⟨_, rfl⟩

/-- The variable is set on a line of its own, and its name takes the place of what is selected. -/
lemma lines_edited (hd : d.Sound) :
    (d.editedInTurn (d.extractVariable r (trim isEditorBlank selected)).edits).lines =
      d.lines.take r.start.line ++ [d.variableLine r, before ++ newVariable ++ after] ++
        d.lines.drop (r.start.line + 1) := by
  have hr := h.start.lt_length
  have hnew : ∀ l ∈ [d.variableLine r], Unbroken l := by
    simpa using unbroken_variableLine hd h.same (h.same ▸ hr)
  have hstart := h.start.down rfl (Nat.le_refl _) [d.variableLine r]
  have hstop := h.stop.down h.same.symm (Nat.le_refl _) [d.variableLine r]
  have hedits := d.extractVariable_eq r
  rw [h.slice_eq] at hedits
  rw [hedits]
  simp only [editedInTurn, List.foldl_cons, List.foldl_nil, edited_insert_lines hd hr hnew]
  rw [edited_between (withInserted_sound hd hr hnew) hstart hstop ⟨by decide, by decide⟩]
  have hdrop : (d.withInserted r.start.line [d.variableLine r]).lines.drop
      (r.start.line + [d.variableLine r].length + 1) = d.lines.drop (r.start.line + 1) := by
    rw [Nat.add_right_comm]
    exact drop_withInserted (Nat.le_succ _) (Nat.le_of_lt hr)
  simp only [hdrop, take_withInserted (Nat.le_refl _) (Nat.le_of_lt hr)]
  simp

lemma words_variableLine :
    words isEditorBlank (d.variableLine r) =
      [Action.set.words.2.toList, newVariable] ++ words isEditorBlank selected := by
  have hindent : ∀ c ∈ indentation (d.lineD r.start.line), isEditorBlank c = true :=
    fun c hc => List.mem_takeWhile_imp hc
  have hhead : words isEditorBlank "置 newVar ".toList = [Action.set.words.2.toList, newVariable] := by
    decide +kernel
  rw [variableLine, h.slice_eq, List.append_assoc, words_blank_append hindent,
    words_append_of_last ((Option.all_eq_true ..).mp (by decide)), hhead, words_trim]

lemma notMem_variableLine : '#' ∉ d.variableLine r := by
  have hline := h.code
  rw [← h.stop.lineD_eq] at hline
  have hselected : '#' ∉ selected := fun hm => h.code (by simp [hm])
  rw [variableLine, h.slice_eq]
  simp only [List.mem_append, not_or]
  exact ⟨⟨fun hm => hline (List.takeWhile_subset _ hm), by decide⟩,
    fun hm => hselected (mem_of_mem_trim hm)⟩

end SelectsArguments

/-- **Extracting a variable.** The variable is set to the selected arguments on a line of its own above,
and nothing else changes but the line itself. Its name takes the place of the selected arguments if and
only if a blank, or the end of the line, is left on either side of the selection. -/
theorem extracted_words (text : String) {r : Range} {before selected after : List Char} {t : Token}
    (h : (ofText text).SelectsArguments r before selected after t) :
    ∃ x xs setting changed, (ofText text).refactorings r = .ok (x :: xs) ∧
      x.extraction = .toVariable ∧
      ((ofText text).editedInTurn x.edits).lines =
        (ofText text).lines.take r.start.line ++ [setting, changed] ++
          (ofText text).lines.drop (r.start.line + 1) ∧
      Token.ofLine isEditorBlank setting =
        some ⟨Action.set.words.2,
          "newVar" :: (words isEditorBlank selected).map String.ofList, "~"⟩ ∧
      Token.ofLine isEditorBlank ((ofText text).lineD r.start.line) =
        some ⟨t.action, t.args ++ (words isEditorBlank selected).map String.ofList ++
          (words isEditorBlank after).map String.ofList, t.state⟩ ∧
      (Token.ofLine isEditorBlank changed =
          some ⟨t.action, t.args ++ "newVar" :: (words isEditorBlank after).map String.ofList,
            t.state⟩ ↔
        (∀ c ∈ before.getLast?, isEditorBlank c = true) ∧
          ∀ c ∈ after.head?, isEditorBlank c = true) := by
  obtain ⟨xs, hoffered⟩ := h.refactorings_eq
  refine ⟨_, xs, _, _, hoffered, rfl, h.lines_edited (ofText_sound text), ?_, ?_, ?_⟩
  · -- the new line
    rw [Token.ofLine_of_notMem h.notMem_variableLine, h.words_variableLine]
    rfl
  · -- the line as it was
    rw [h.stop.lineD_eq, Token.ofLine_of_notMem h.code, h.whole, List.append_assoc, List.map_append,
      Token.ofWords_append h.lead, List.map_append, List.append_assoc]
  · -- the line as it is, with the name in the place of what was selected
    have hcode : '#' ∉ before ++ newVariable ++ after := by
      have hline := h.code
      have hname : '#' ∉ newVariable := by decide
      simp only [List.mem_append, not_or] at hline ⊢
      exact ⟨⟨hline.1.1, hname⟩, hline.2⟩
    rw [Token.ofLine_of_notMem hcode]
    exact ofWords_put_iff h.lead (by decide) (forall_mem_of_all (by decide))

def unevenPrint : String := "若 x:\n  > 印 a  b   c\n终"

def firstTwo : Range := ⟨⟨1, 6⟩, ⟨1, 11⟩⟩

theorem firstTwo_extracted :
    (ofText unevenPrint).SelectsArguments firstTwo "  > 印 ".toList "a  b ".toList "  c".toList
        ⟨"印", [], ">"⟩ ∧
      ∃ x xs setting changed, (ofText unevenPrint).refactorings firstTwo = .ok (x :: xs) ∧
        ((ofText unevenPrint).editedInTurn x.edits).lines =
          ["若 x:".toList, setting, changed, "终".toList] ∧
        Token.ofLine isEditorBlank setting = some ⟨"置", ["newVar", "a", "b"], "~"⟩ ∧
        Token.ofLine isEditorBlank changed = some ⟨"印", ["newVar", "c"], ">"⟩ := by
  have hselects : (ofText unevenPrint).SelectsArguments firstTwo "  > 印 ".toList "a  b ".toList
      "  c".toList ⟨"印", [], ">"⟩ :=
    ⟨rfl, ⟨by decide +kernel, by decide +kernel⟩, ⟨by decide +kernel, by decide +kernel⟩,
      by decide +kernel, by decide +kernel, by decide +kernel, by decide +kernel⟩
  refine ⟨hselects, ?_⟩
  obtain ⟨x, xs, setting, changed, hoffered, -, hlines, hsetting, -, hchanged⟩ :=
    extracted_words unevenPrint hselects
  refine ⟨x, xs, setting, changed, hoffered, ?_, ?_, ?_⟩
  · rw [hlines]
    rfl
  · rw [hsetting]
    decide +kernel
  · have hleft : ∀ c ∈ "  > 印 ".toList.getLast?, isEditorBlank c = true :=
      (Option.all_eq_true ..).mp (by decide)
    have hright : ∀ c ∈ "  c".toList.head?, isEditorBlank c = true :=
      (Option.all_eq_true ..).mp (by decide)
    rw [hchanged.mpr ⟨hleft, hright⟩]
    decide +kernel

/-- With the blanks around it, the argument is replaced by a name that is no word of its own. -/
theorem blanks_selected_glued :
    (ofText "印 a b").SelectsArguments ⟨⟨0, 1⟩, ⟨0, 4⟩⟩ ['印'] " a ".toList ['b'] ⟨"印", [], "~"⟩ ∧
      ∃ x, (ofText "印 a b").refactorings ⟨⟨0, 1⟩, ⟨0, 4⟩⟩ = .ok [x] ∧
        ((ofText "印 a b").editedInTurn x.edits).lines =
          ["置 newVar a".toList, "印newVarb".toList] ∧
        Token.ofLine isEditorBlank "印newVarb".toList = some ⟨"印newVarb", [], "~"⟩ := by
  have hoffered : (ofText "印 a b").refactorings ⟨⟨0, 1⟩, ⟨0, 4⟩⟩ =
      .ok [(ofText "印 a b").extractVariable ⟨⟨0, 1⟩, ⟨0, 4⟩⟩ ['a']] := by decide +kernel
  refine ⟨⟨rfl, ⟨by decide +kernel, by decide +kernel⟩, ⟨by decide +kernel, by decide +kernel⟩,
    by decide +kernel, by decide +kernel, by decide +kernel, by decide +kernel⟩, ?_⟩
  exact ⟨_, hoffered, by decide +kernel, by decide +kernel⟩

end Editor.Document

end Flowline
