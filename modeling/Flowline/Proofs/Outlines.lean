import Flowline.Editor.Hover
import Flowline.Proofs.Agreement
import Flowline.Proofs.Digits
import Flowline.Proofs.WordRanges

/-!
The outline of a document and what is said about its names.

The outline, the way to a definition and the text over a word are each made from the names that the
lines of a document define. The outline keeps one variable of each name, the first, so the first entry
of a name is the name that the other two find; and a document has the lines of its text, so the number of
a line that was read is the number of a line of the document.
-/

namespace Flowline.Editor

open Text

/-! ### One of each name -/

section

variable {name : String} {seen : List String} {ss : List Symbol}

lemma mem_of_mem_distinctNames {s : Symbol} (h : s ∈ distinctNames seen ss) :
    s ∈ ss ∧ s.name ∉ seen := by
  fun_induction distinctNames seen ss with
  | case1 => cases h
  | case2 seen s' ss _ ih => exact (ih h).imp_left (List.mem_cons_of_mem s')
  | case3 seen s' ss hnew ih =>
    rcases List.mem_cons.mp h with rfl | h
    · exact ⟨List.mem_cons_self, by simpa using hnew⟩
    · obtain ⟨hmem, hseen⟩ := ih h
      exact ⟨List.mem_cons_of_mem s' hmem, fun hs => hseen (List.mem_cons_of_mem _ hs)⟩

lemma nodup_distinctNames (seen : List String) (ss : List Symbol) :
    ((distinctNames seen ss).map Symbol.name).Nodup := by
  fun_induction distinctNames seen ss with
  | case1 => exact List.nodup_nil
  | case2 seen s ss _ ih => exact ih
  | case3 seen s ss hnew ih =>
    refine List.nodup_cons.mpr ⟨fun hm => ?_, ih⟩
    obtain ⟨s', hs', hname⟩ := List.mem_map.mp hm
    exact (mem_of_mem_distinctNames hs').2 (by simp [hname])

/-- Leaving out later symbols of a name does not change which one comes first. -/
lemma find?_distinctNames (h : name ∉ seen) :
    (distinctNames seen ss).find? (·.name == name) = ss.find? (·.name == name) := by
  fun_induction distinctNames seen ss with
  | case1 => rfl
  | case2 seen s ss hseen ih =>
    have hne : (s.name == name) = false := by
      rw [beq_eq_false_iff_ne]
      rintro rfl
      exact h (by simpa using hseen)
    rw [List.find?_cons, hne, ih h]
  | case3 seen s ss _ ih =>
    rw [List.find?_cons, List.find?_cons]
    by_cases hname : s.name = name
    · simp [hname]
    · have hne : (s.name == name) = false := by simpa using hname
      rw [hne, ih]
      simpa [h] using Ne.symm hname

end

/-! ### Entries -/

namespace Document

def entryOf (d : Document) (s : Symbol) : OutlineEntry := ⟨s, s.detail, d.lineRange (s.line - 1)⟩

def functionEntries (d : Document) : List OutlineEntry := d.outline.filter (·.symbol.isFunction)

def variableEntries (d : Document) : List OutlineEntry := d.outline.filter (!·.symbol.isFunction)

/-- The entry of a name: the first function of that name, or else the first variable. -/
def entryNamed? (d : Document) (name : String) : Option OutlineEntry :=
  (d.functionEntries.find? (·.symbol.name == name)).or
    (d.variableEntries.find? (·.symbol.name == name))

lemma functionEntries_eq (d : Document) :
    d.functionEntries = d.analysis.functions.map d.entryOf := by
  have hfunctions : d.analysis.functions.filter Symbol.isFunction = d.analysis.functions :=
    List.filter_eq_self.mpr fun s hs => (List.mem_filter.mp hs).2
  have hvariables : (distinctNames [] d.analysis.bindings).filter Symbol.isFunction = [] := by
    refine List.filter_eq_nil_iff.mpr fun s hs => ?_
    simpa using (List.mem_filter.mp (mem_of_mem_distinctNames hs).1).2
  calc d.functionEntries
      = ((d.analysis.functions ++ distinctNames [] d.analysis.bindings).filter
          Symbol.isFunction).map d.entryOf := List.filter_map
    _ = d.analysis.functions.map d.entryOf := by
        rw [List.filter_append, hfunctions, hvariables, List.append_nil]

lemma variableEntries_eq (d : Document) :
    d.variableEntries = (distinctNames [] d.analysis.bindings).map d.entryOf := by
  have hfunctions : d.analysis.functions.filter (!·.isFunction) = [] := by
    refine List.filter_eq_nil_iff.mpr fun s hs => ?_
    simpa using (List.mem_filter.mp hs).2
  have hvariables : (distinctNames [] d.analysis.bindings).filter (!·.isFunction) =
      distinctNames [] d.analysis.bindings :=
    List.filter_eq_self.mpr fun s hs => (List.mem_filter.mp (mem_of_mem_distinctNames hs).1).2
  calc d.variableEntries
      = ((d.analysis.functions ++ distinctNames [] d.analysis.bindings).filter
          (!·.isFunction)).map d.entryOf := List.filter_map
    _ = (distinctNames [] d.analysis.bindings).map d.entryOf := by
        rw [List.filter_append, hfunctions, hvariables, List.nil_append]

/-- The entry of a name is that of the symbol which the name stands for. -/
lemma entryNamed?_eq (d : Document) (name : String) :
    d.entryNamed? name = (d.symbol? name).map d.entryOf := by
  have hentries (ss : List Symbol) : (ss.map d.entryOf).find? (·.symbol.name == name) =
      (ss.find? (·.name == name)).map d.entryOf := List.find?_map
  rw [entryNamed?, functionEntries_eq, variableEntries_eq, hentries, hentries,
    find?_distinctNames List.not_mem_nil, symbol?, Option.map_or]

lemma nodup_variableEntries (d : Document) : (d.variableEntries.map (·.symbol.name)).Nodup := by
  rw [variableEntries_eq, List.map_map]
  exact nodup_distinctNames [] d.analysis.bindings

end Document

/-! ### The line of a symbol -/

/-- The token defines a name: a function by its first argument, which may have a colon at its end, or a
variable that is set to something. -/
inductive Defines (t : Token) : Symbol → Prop
  | function {f : String} {params : List String} (haction : Action.define.IsForm t.action)
      (hargs : t.args = f :: params) (n : Nat) :
      Defines t (.function (Token.dropColon f) (params.map Token.dropColon) n)
  | binding {x value : String} {rest : List String} (haction : Action.set.IsForm t.action)
      (hargs : t.args = x :: value :: rest) (n : Nat) : Defines t (.binding x n)

/-- A line that is no clause begins with a form of its action. -/
lemma isForm_of_statementOf {t : Token} {a : Action} {args : List String} {state : String}
    (h : statementOf t = .ok (.line a args state)) (ha : ∀ name, (name, a) ∉ colonForms) :
    a.IsForm t.action := by
  rw [statementOf_eq] at h
  rcases hs : t.statement with e | s
  · rw [hs] at h
    cases h
  rw [hs] at h
  have hwrites := Token.writes_of_ok hs
  cases hwrites with
  | clause _ _ hclause =>
    cases h
    exact absurd hclause (ha _)
  | line _ _ _ _ hform =>
    cases h
    exact hform
  | _ => cases h

lemma defines_of_symbolOf? {t : PlacedToken} {st : Statement} {s : Symbol}
    (hst : statementOf t.token = .ok st) (hs : symbolOf? t st = some s) :
    Defines t.token s ∧ s.line = t.line := by
  unfold symbolOf? at hs
  split at hs
  · have hform := isForm_of_statementOf hst (by simp [colonForms])
    split at hs
    · cases hs
    · next f params hargs =>
      obtain rfl := Option.some.inj hs
      exact ⟨.function hform hargs _, rfl⟩
  · have hform := isForm_of_statementOf hst (by simp [colonForms])
    split at hs
    · next x value rest hargs =>
      obtain rfl := Option.some.inj hs
      exact ⟨.binding hform hargs _, rfl⟩
    · cases hs
  · cases hs

lemma reading_of_mem_tokens {source : List Char} {t : PlacedToken} (h : t ∈ tokens source) :
    ∃ n r, (readings source)[n]? = some r ∧ r.token = some t.token ∧ t.line = n + 1 := by
  obtain ⟨⟨r, m⟩, hr, ht⟩ := List.mem_filterMap.mp h
  obtain ⟨hm, hget⟩ := List.mk_mem_zipIdx_iff_le_and_getElem?_sub.mp hr
  obtain ⟨token, htoken, rfl⟩ := Option.map_eq_some_iff.mp ht
  refine ⟨m - 1, r, hget, ?_, by simp; omega⟩
  rw [token_of_mem_readLines (List.mem_of_getElem? hget), htoken]

lemma defines_of_mem_symbols {source : List Char} {s : Symbol} (h : s ∈ (analyze source).symbols) :
    ∃ n r t, (readings source)[n]? = some r ∧ r.token = some t ∧ Defines t s ∧ s.line = n + 1 := by
  obtain ⟨⟨t, st⟩, hst, hs⟩ := List.mem_filterMap.mp h
  obtain ⟨t', ht, hmap⟩ := List.mem_filterMap.mp hst
  obtain ⟨st', hok, heq⟩ := Option.map_eq_some_iff.mp hmap
  obtain ⟨rfl, rfl⟩ := Prod.mk.inj heq
  have hstatement : statementOf t'.token = .ok st' := by
    rcases hcase : statementOf t'.token with e | u
    · rw [hcase] at hok
      cases hok
    · rw [hcase] at hok
      rw [Option.some.inj hok]
  obtain ⟨hdefines, hline⟩ := defines_of_symbolOf? hstatement hs
  obtain ⟨n, r, hr, htoken, hn⟩ := reading_of_mem_tokens ht
  exact ⟨n, r, t'.token, hr, htoken, hdefines, hline.trans hn⟩

namespace Document

variable {d : Document}

lemma lt_length_of_reading (hd : d.Sound) {n : Nat} {r : Reading}
    (h : (readings d.text)[n]? = some r) : n < d.lines.length := by
  have hlt := (List.getElem?_eq_some_iff.mp h).1
  rwa [readings, length_readLines, editorLines_text hd] at hlt

/-- An entry has the range of the whole line that defines its name. -/
lemma line_of_mem_outline (hd : d.Sound) {e : OutlineEntry} (h : e ∈ d.outline) :
    ∃ n line r t, d.lines[n]? = some line ∧ e.range = ⟨⟨n, 0⟩, ⟨n, units line⟩⟩ ∧
      (readings d.text)[n]? = some r ∧ r.token = some t ∧ Defines t e.symbol := by
  obtain ⟨s, hs, rfl⟩ := List.mem_map.mp h
  have hsymbol : s ∈ (analyze d.text).symbols := by
    rcases List.mem_append.mp hs with hs | hs
    · exact List.mem_of_mem_filter hs
    · exact List.mem_of_mem_filter (mem_of_mem_distinctNames hs).1
  obtain ⟨n, r, t, hr, htoken, hdefines, hline⟩ := defines_of_mem_symbols hsymbol
  have hn := lt_length_of_reading hd hr
  refine ⟨n, d.lines[n], r, t, List.getElem?_eq_getElem hn, ?_, hr, htoken, hdefines⟩
  simp only [hline, Nat.add_sub_cancel, lineRange, lineD_of_lt hn]

end Document

/-! ### What the other two find -/

/-- The text over a word ends with the number of the line that defines it. -/
def Hover.Reports (h : Hover) (s : Symbol) (n : Nat) : Prop :=
  ∃ intro, h.contents =
    intro ++ (if s.isFunction then "Defined at line " else "First assigned at line ") ++ toString n

lemma reports_hover (s : Symbol) (range : Range) : (s.hover range).Reports s s.line := by
  cases s with
  | function name params line =>
    refine ⟨"\n```" ++ languageId ++ "\n定 " ++ name ++ paramText params ++ "\n```\n" ++ "\n\n", ?_⟩
    have htext : s!"\n\nDefined at line {line}" = "\n\n" ++ "Defined at line " ++ toString line := rfl
    simp only [Symbol.hover, htext, Symbol.isFunction, Symbol.line, if_true, String.append_assoc]
  | binding name line =>
    refine ⟨"**variable** " ++ asCode name ++ "\n\n", ?_⟩
    have htext : s!"First assigned at line {line}" = "First assigned at line " ++ toString line := rfl
    simp only [Symbol.hover, htext, Symbol.isFunction, Symbol.line, if_false, Bool.false_eq_true,
      String.append_assoc]

namespace Document

variable {d : Document} {p : Position} {name : String} {range : Range}

lemma definition?_eq (h : d.wordAt? p = some (name, range)) :
    d.definition? p = (d.entryNamed? name).map (·.range.start) := by
  rcases hs : d.symbol? name with _ | s <;>
    simp [definition?, h, hs, entryNamed?_eq, entryOf, lineRange]

lemma hover?_eq (h : d.wordAt? p = some (name, range)) (hkeyword : ∀ k ∈ keywords, name ∉ k.forms)
    (hoperator : ∀ o ∈ operators, o.form ≠ name) :
    d.hover? p = (d.entryNamed? name).map (·.symbol.hover range) := by
  have hnone : keywordOf? name = none :=
    List.find?_eq_none.mpr fun k hk => by simpa using hkeyword k hk
  have hnone' : operators.find? (fun o => o.form == name) = none :=
    List.find?_eq_none.mpr fun o ho => by simpa using hoperator o ho
  rcases hs : d.symbol? name with _ | s <;>
    simp only [hover?, h, hnone, hnone', hs, entryNamed?_eq, Option.map_none, Option.map_some, entryOf]

/-- The line of an entry is one less than the line of its symbol, which is counted from one. -/
lemma line_of_entryNamed? {e : OutlineEntry} (h : d.entryNamed? name = some e) :
    e.symbol.line = e.range.start.line + 1 := by
  rw [entryNamed?_eq] at h
  obtain ⟨s, hs, rfl⟩ := Option.map_eq_some_iff.mp h
  have hsymbol : s ∈ (analyze d.text).symbols := by
    rcases Option.or_eq_some_iff.mp hs with hs | ⟨-, hs⟩
    · exact List.mem_of_mem_filter (List.mem_of_find?_eq_some hs)
    · exact List.mem_of_mem_filter (List.mem_of_find?_eq_some hs)
  obtain ⟨n, -, -, -, -, -, hline⟩ := defines_of_mem_symbols hsymbol
  simp only [entryOf, lineRange, hline, Nat.add_sub_cancel]

/-- **Outline, definition and hover agree.** Over a word that is neither a keyword nor an operator, the
definition is the beginning of the line that the outline has for the word, the hover tells the number of
that line, counted from one, and there is neither if the outline does not have the word. The lines of
the outline are those that define its names, and no variable is listed twice. -/
theorem navigation_agrees (text : String) :
    (∀ (p : Position) (before word after : List Char),
      (ofText text).OnWord ((ofText text).clamp p) before word after →
      (∀ k ∈ keywords, String.ofList word ∉ k.forms) →
      (∀ o ∈ operators, o.form ≠ String.ofList word) →
        (∀ e, (ofText text).entryNamed? (String.ofList word) = some e →
          (ofText text).definition? p = some e.range.start ∧
          ∃ h, (ofText text).hover? p = some h ∧ h.Reports e.symbol (e.range.start.line + 1)) ∧
        ((ofText text).definition? p = none ↔
          (ofText text).entryNamed? (String.ofList word) = none) ∧
        ((ofText text).hover? p = none ↔
          (ofText text).entryNamed? (String.ofList word) = none)) ∧
      (∀ e ∈ (ofText text).outline, ∃ n line r t,
        (ofText text).lines[n]? = some line ∧ e.range = ⟨⟨n, 0⟩, ⟨n, units line⟩⟩ ∧
        (readings (ofText text).text)[n]? = some r ∧ r.token = some t ∧ Defines t e.symbol) ∧
      ((ofText text).variableEntries.map (·.symbol.name)).Nodup := by
  refine ⟨fun p before word after hword hkeyword hoperator => ?_,
    fun e he => line_of_mem_outline (ofText_sound text) he, nodup_variableEntries _⟩
  have hat := wordAt?_of_onWord hword
  rw [definition?_eq hat, hover?_eq hat hkeyword hoperator]
  refine ⟨fun e he => ?_, Option.map_eq_none_iff, Option.map_eq_none_iff⟩
  rw [he, ← line_of_entryNamed? he]
  exact ⟨rfl, _, rfl, reports_hover e.symbol _⟩

/-- A function and two assignments of one variable, the second with the function's name in it. -/
def twiceAssigned : String := "定 f a:\n终\n置 x 1 # first\n置 x f"

/-- Over the last `f` the definition is the first line; the variable is listed once. -/
theorem twiceAssigned_agrees :
    (ofText twiceAssigned).OnWord ((ofText twiceAssigned).clamp ⟨3, 5⟩) "置 x ".toList ['f'] [] ∧
      (∀ k ∈ keywords, "f" ∉ k.forms) ∧ (∀ o ∈ operators, o.form ≠ "f") ∧
      (ofText twiceAssigned).definition? ⟨3, 5⟩ = some ⟨0, 0⟩ ∧
      (∃ h, (ofText twiceAssigned).hover? ⟨3, 5⟩ = some h ∧ h.Reports (.function "f" ["a"] 1) 1) ∧
      (ofText twiceAssigned).variableEntries = [⟨.binding "x" 3, "variable", ⟨⟨2, 0⟩, ⟨2, 13⟩⟩⟩] := by
  have hrun : IsRun "置 x ".toList ['f'] [] :=
    ⟨by decide, forall_mem_of_all (by decide), by simp; decide, by simp⟩
  have hword : (ofText twiceAssigned).OnWord ((ofText twiceAssigned).clamp ⟨3, 5⟩)
      "置 x ".toList ['f'] [] := ⟨by decide +kernel, hrun, by decide +kernel⟩
  have hkeyword : ∀ k ∈ keywords, "f" ∉ k.forms := by decide +kernel
  have hoperator : ∀ o ∈ operators, o.form ≠ "f" := by decide +kernel
  have hentry : (ofText twiceAssigned).entryNamed? (String.ofList ['f']) =
      some ⟨.function "f" ["a"] 1, "(a)", ⟨⟨0, 0⟩, ⟨0, 6⟩⟩⟩ := by decide +kernel
  obtain ⟨hall, -, -⟩ := navigation_agrees twiceAssigned
  obtain ⟨hsome, -, -⟩ := hall ⟨3, 5⟩ _ _ _ hword hkeyword hoperator
  obtain ⟨hdefinition, hhover⟩ := hsome _ hentry
  exact ⟨hword, hkeyword, hoperator, hdefinition, hhover, by decide +kernel⟩

end Document

end Flowline.Editor
