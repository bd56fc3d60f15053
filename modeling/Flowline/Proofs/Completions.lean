import Flowline.Editor.Completion
import Flowline.Proofs.Outlines
import Flowline.Proofs.ReportPlaces
import Flowline.Proofs.Respacing

/-!
Keywords while they are typed.

Keywords are proposed where nothing but a mark stands before the cursor. As soon as the first letter of
a keyword is there, the line has begun: what is proposed then are operators, and the names that the
document defines. So a keyword that is being typed is proposed only if it happens to be such a name.
-/

namespace Flowline.Editor

open Text

/-! ### What stands before the cursor -/

/-- The text of a line before a column. A column beyond the line means its end. -/
def StandsBefore (line typed : List Char) (column : Nat) : Prop :=
  ∃ rest, line = typed ++ rest ∧ (units typed = column ∨ rest = [] ∧ units typed ≤ column)

/-- A word, or the beginning of one, at the place of an action: before it stand only blanks and, if the
line has one, its mark. -/
def BeginsLine (typed word : List Char) : Prop :=
  ∃ indent lead, typed = indent ++ lead ++ word ∧ (∀ c ∈ indent, isEditorBlank c = true) ∧
    (lead = [] ∨ ∃ mark gap, lead = mark ++ gap ∧ isLineState (String.ofList mark) = true ∧
      ∀ c ∈ gap, isEditorBlank c = true)

lemma takeUnits_of_units_le {n : Nat} {cs : List Char} (h : units cs ≤ n) : takeUnits n cs = cs := by
  induction cs generalizing n with
  | nil => rfl
  | cons c cs ih =>
    rw [units_cons] at h
    rw [takeUnits, if_pos (by omega), ih (by omega)]

lemma beforeCursor_eq {line typed : List Char} {column : Nat} (h : StandsBefore line typed column) :
    beforeCursor line column = trimStart isEditorBlank typed := by
  obtain ⟨rest, rfl, hcolumn⟩ := h
  have hcut : takeUnits column (typed ++ rest) = typed := by
    rcases hcolumn with rfl | ⟨rfl, hle⟩
    · exact takeUnits_units_append typed rest
    · rw [List.append_nil, takeUnits_of_units_le hle]
  have hwhole : (decide (units typed < column) && decide (typed.length < (typed ++ rest).length)) =
      false := by
    rcases hcolumn with rfl | ⟨rfl, -⟩ <;> simp
  unfold beforeCursor
  simp only [hcut, hwhole, Bool.false_eq_true, if_false, List.append_nil]

def proposedKeywords : List Keyword := actionKeywords ++ [blockEndKeyword]

/-- A form of a keyword is a word that does not begin with a mark, and it is no operator. -/
lemma form_of_mem_proposedKeywords {k : Keyword} {form : String} (hk : k ∈ proposedKeywords)
    (hform : form ∈ k.forms) :
    (∀ c ∈ form.toList, isEditorBlank c = false) ∧
      isLineState (String.ofList (form.toList.take 1)) = false ∧
      ∀ o ∈ operators, o.form ≠ form := by
  have hall : ∀ k ∈ proposedKeywords, ∀ form ∈ k.forms,
      form.toList.all (fun c => decide (isEditorBlank c = false)) = true ∧
        isLineState (String.ofList (form.toList.take 1)) = false ∧
        ∀ o ∈ operators, o.form ≠ form := by decide +kernel
  obtain ⟨hblank, hmark, hoperator⟩ := hall k hk form hform
  exact ⟨forall_mem_of_all hblank, hmark, hoperator⟩

lemma not_blank_of_isLineState {mark : List Char} (h : isLineState (String.ofList mark) = true) :
    ∀ c ∈ mark, isEditorBlank c = false := by
  have hall : ∀ s ∈ lineStates, s.toList.all (fun c => decide (isEditorBlank c = false)) = true := by
    decide
  have hmark := hall (String.ofList mark) (by simpa [isLineState] using h)
  rw [String.toList_ofList] at hmark
  exact forall_mem_of_all hmark

/-- A text that does not end with a blank has no empty word at its end. -/
lemma typedWords_eq {text : List Char} (hne : text ≠ [])
    (hend : ∀ c ∈ text.getLast?, isEditorBlank c = false) :
    typedWords text = words isEditorBlank text := by
  have hlast : text.getLast? = some (text.getLast hne) := List.getLast?_eq_some_getLast hne
  have hblank := hend _ hlast
  have hwords : words isEditorBlank text ≠ [] := by
    intro hnil
    have hall := words_eq_nil_iff.mp hnil _ (List.getLast_mem hne)
    rw [hblank] at hall
    cases hall
  simp [typedWords, hlast, hblank, hwords]

section

variable {typed word : List Char}

/-- Before a word at the place of an action, a line has at most its mark. -/
lemma BeginsLine.cases (h : BeginsLine typed word) (hne : word ≠ [])
    (hblank : ∀ c ∈ word, isEditorBlank c = false) :
    trimStart isEditorBlank typed = word ∨
      ∃ m gap, trimStart isEditorBlank typed = m :: (gap ++ word) ∧ isEditorBlank m = false ∧
        ∀ c ∈ gap, isEditorBlank c = true := by
  obtain ⟨indent, lead, rfl, hindent, hlead⟩ := h
  have hskip : trimStart isEditorBlank (indent ++ lead ++ word) =
      trimStart isEditorBlank (lead ++ word) := by
    rw [trimStart, List.append_assoc, List.dropWhile_append_of_pos hindent, trimStart]
  rw [hskip]
  rcases hlead with rfl | ⟨mark, gap, rfl, hstate, hgap⟩
  · obtain ⟨c, cs, rfl⟩ := List.exists_cons_of_ne_nil hne
    have hc : ¬ isEditorBlank c = true := by simp [hblank c]
    exact .inl (List.dropWhile_cons_of_neg hc)
  · obtain ⟨m, rfl⟩ := eq_singleton_of_isLineState hstate
    have hm := not_blank_of_isLineState hstate m (by simp)
    refine .inr ⟨m, gap, ?_, hm, hgap⟩
    rw [trimStart, List.append_assoc, List.singleton_append, List.dropWhile_cons_of_neg (by simp [hm])]

/-- Once a keyword has been begun, the line has been begun, and it has no more than two words. -/
lemma BeginsLine.begun (h : BeginsLine typed word) (hne : word ≠ [])
    (hblank : ∀ c ∈ word, isEditorBlank c = false)
    (hmark : isLineState (String.ofList (word.take 1)) = false) :
    isLineStart (trimStart isEditorBlank typed) = false ∧
      (typedWords (trimStart isEditorBlank typed)).length ≤ 2 := by
  have hword : words isEditorBlank word = [word] := words_of_forall_not hne hblank
  have hend : ∀ c ∈ word.getLast?, isEditorBlank c = false := fun c hc =>
    hblank c (List.mem_of_getLast? hc)
  obtain ⟨c, cs, hcons⟩ := List.exists_cons_of_ne_nil hne
  rcases h.cases hne hblank with heq | ⟨m, gap, heq, hm, hgap⟩
  · -- the word begins the line
    rw [heq, typedWords_eq hne hend, hword]
    refine ⟨?_, by simp⟩
    rw [hcons] at hmark ⊢
    simp only [isLineStart, Bool.and_eq_false_iff]
    exact .inl hmark
  · -- a mark comes first
    have hlast : (m :: (gap ++ word)).getLast? = word.getLast? := by
      rw [← List.cons_append, List.getLast?_append_of_ne_nil _ hne]
    rw [heq, typedWords_eq (by simp) (by rwa [hlast])]
    constructor
    · have hc : isEditorBlank c = false := hblank c (by simp [hcons])
      simp [isLineStart, hcons, hc]
    · cases gap with
      | nil =>
        -- without a blank between them the mark and the word are one word
        have hall : ∀ c ∈ m :: word, isEditorBlank c = false :=
          List.forall_mem_cons.mpr ⟨hm, hblank⟩
        rw [List.nil_append, words_of_forall_not (by simp) hall]
        simp
      | cons b gap =>
        rw [List.forall_mem_cons] at hgap
        have hfirst : words isEditorBlank [m] = [[m]] :=
          words_of_forall_not (by simp) (by simpa using hm)
        have htwo : words isEditorBlank (m :: (b :: gap ++ word)) = [[m], word] := by
          have hsplit := words_append_cons [m] (gap ++ word) hgap.1
          rwa [hfirst, words_blank_append hgap.2, hword] at hsplit
        rw [htwo]
        simp

end

/-! ### What is proposed -/

namespace Document

variable {d : Document} {o : CompletionOptions} {name : String}

/-- What depends on the first of at most two words: operators, or names that the document defines. -/
lemma mem_contextItems {ws : List (List Char)} (h : ws.length ≤ 2) {x : Item}
    (hx : x ∈ d.contextItems o ws) :
    (∃ op ∈ operators, x = op.item) ∨ x ∈ d.functionItems ++ d.variableItems := by
  unfold contextItems at hx
  simp only [h, if_true, List.mem_append] at hx
  rcases hx with (hx | hx) | hx
  · split_ifs at hx
    · obtain ⟨op, hop, rfl⟩ := List.mem_map.mp hx
      exact .inl ⟨op, hop, rfl⟩
    · cases hx
  · split_ifs at hx
    · exact .inr (List.mem_append_left _ hx)
    · cases hx
  · split_ifs at hx
    · exact .inr (List.mem_append_right _ hx)
    · cases hx

lemma label_item (s : Symbol) : s.item.label = s.name := by
  cases s <;> rfl

/-- The names that are proposed are those that the document defines. -/
lemma label_mem_iff (d : Document) (name : String) :
    (∃ x ∈ d.functionItems ++ d.variableItems, x.label = name) ↔
      ∃ s ∈ d.analysis.symbols, s.name = name := by
  constructor
  · rintro ⟨x, hx, rfl⟩
    rcases List.mem_append.mp hx with hx | hx
    · obtain ⟨s, hs, rfl⟩ := List.mem_map.mp hx
      exact ⟨s, List.mem_of_mem_filter hs, (label_item s).symm⟩
    · obtain ⟨s, hs, rfl⟩ := List.mem_map.mp hx
      exact ⟨s, List.mem_of_mem_filter (mem_of_mem_distinctNames hs).1, (label_item s).symm⟩
  · rintro ⟨s, hs, rfl⟩
    cases hkind : s.isFunction with
    | true =>
      have hmem : s ∈ d.analysis.functions := List.mem_filter.mpr ⟨hs, hkind⟩
      exact ⟨s.item, List.mem_append_left _ (List.mem_map_of_mem hmem), label_item s⟩
    | false =>
      have hmem : s ∈ d.analysis.bindings := List.mem_filter.mpr ⟨hs, by simp [hkind]⟩
      -- of the variables with this name the first is proposed
      have hfirst : ((distinctNames [] d.analysis.bindings).find? (·.name == s.name)).isSome := by
        rw [find?_distinctNames List.not_mem_nil]
        exact List.find?_isSome.mpr ⟨s, hmem, by simp⟩
      obtain ⟨s', hs'⟩ := Option.isSome_iff_exists.mp hfirst
      have hname : s'.name = s.name := by simpa using List.find?_some hs'
      refine ⟨s'.item, List.mem_append_right _ (List.mem_map_of_mem ?_), (label_item s').trans hname⟩
      exact List.mem_of_find?_eq_some hs'

/-- **Keywords are not proposed while they are typed.** Where a line has the beginning of a keyword, at
the place of its action, the keyword is proposed exactly if it is the name of a function or a variable
of the document. -/
theorem keyword_proposed_iff (d : Document) (o : CompletionOptions) {n column : Nat}
    {line typed word : List Char} (hline : d.lines[n]? = some line)
    (hbefore : StandsBefore line typed column) (hword : BeginsLine typed word) {k : Keyword}
    (hk : k ∈ proposedKeywords) {form : String} (hform : form ∈ k.forms) (hne : word ≠ [])
    (hbegins : word <+: form.toList) :
    ∃ items, d.completions o ⟨n, column⟩ = .ok items ∧
      ((∃ x ∈ items, x.label = form) ↔ ∃ s ∈ d.analysis.symbols, s.name = form) := by
  obtain ⟨hblank, hmark, hoperator⟩ := form_of_mem_proposedKeywords hk hform
  obtain ⟨rest, hrest⟩ := hbegins
  have hwordBlank : ∀ c ∈ word, isEditorBlank c = false := fun c hc =>
    hblank c (by simp [← hrest, hc])
  have hwordMark : isLineState (String.ofList (word.take 1)) = false := by
    obtain ⟨c, cs, rfl⟩ := List.exists_cons_of_ne_nil hne
    rw [← hrest] at hmark
    exact hmark
  obtain ⟨hstart, hlength⟩ := hword.begun hne hwordBlank hwordMark
  refine ⟨d.contextItems o (typedWords (trimStart isEditorBlank typed)) ++ d.functionItems ++
    d.variableItems, ?_, ?_⟩
  · have hread : d.line n = .ok line := by simp only [Document.line, hline]
    simp only [completions, hread, beforeCursor_eq hbefore, bind, Except.bind, hstart,
      Bool.false_eq_true, if_false]
    rfl
  · rw [List.append_assoc, ← label_mem_iff d form]
    constructor
    · rintro ⟨x, hx, rfl⟩
      rcases List.mem_append.mp hx with hx | hx
      · rcases mem_contextItems hlength hx with ⟨op, hop, rfl⟩ | hx
        · exact absurd rfl (hoperator op hop)
        · exact ⟨x, hx, rfl⟩
      · exact ⟨x, hx, rfl⟩
    · rintro ⟨x, hx, hlabel⟩
      exact ⟨x, List.mem_append_right _ hx, hlabel⟩

/-- A function with the name of a keyword, and a line on which that keyword has been begun. -/
def keywordName : String := "定 if:\n终\n ~ i"

theorem keywordName_proposed :
    StandsBefore " ~ i".toList " ~ i".toList 4 ∧ BeginsLine " ~ i".toList ['i'] ∧
      Keyword.ofAction .if_ ∈ proposedKeywords ∧ "if" ∈ (Keyword.ofAction .if_).forms ∧
      ['i'] <+: "if".toList ∧
      ∃ items, (ofText keywordName).completions {} ⟨2, 4⟩ = .ok items ∧
        ∃ x ∈ items, x.label = "if" := by
  have hbefore : StandsBefore " ~ i".toList " ~ i".toList 4 := ⟨[], by decide, .inl (by decide)⟩
  have hword : BeginsLine " ~ i".toList ['i'] :=
    ⟨[' '], ['~', ' '], by decide, forall_mem_of_all (by decide),
      .inr ⟨['~'], [' '], rfl, by decide, forall_mem_of_all (by decide)⟩⟩
  have hk : Keyword.ofAction .if_ ∈ proposedKeywords := by decide +kernel
  have hform : "if" ∈ (Keyword.ofAction .if_).forms := by decide
  have hbegins : ['i'] <+: "if".toList := by decide
  have hsymbol : .function "if" [] 1 ∈ (ofText keywordName).analysis.symbols := by decide +kernel
  obtain ⟨items, hitems, hiff⟩ :=
    keyword_proposed_iff (ofText keywordName) {} (n := 2) (by decide +kernel) hbefore hword hk hform
      (by decide) hbegins
  exact ⟨hbefore, hword, hk, hform, hbegins, items, hitems, hiff.mpr ⟨_, hsymbol, rfl⟩⟩

/-- On an empty line every form is proposed, and after its first letter none. -/
theorem begun_keyword_not_proposed :
    BeginsLine ['i'] ['i'] ∧ "if" ∈ (Keyword.ofAction .if_).forms ∧ ['i'] <+: "if".toList ∧
      (∃ items, (ofText "").completions {} ⟨0, 0⟩ = .ok items ∧ ∃ x ∈ items, x.label = "if") ∧
      (ofText "i").completions {} ⟨0, 1⟩ = .ok [] := by
  refine ⟨⟨[], [], rfl, by simp, .inl rfl⟩, by decide, by decide, ?_, by decide +kernel⟩
  exact ⟨lineStartItems {} [], rfl, by decide +kernel⟩

end Document

end Flowline.Editor
