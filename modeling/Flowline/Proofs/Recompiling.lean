import Mathlib.Data.List.Forall2
import Mathlib.Tactic.Lemma
import Flowline.Proofs.Arguments
import Flowline.Proofs.Conditions
import Flowline.Proofs.Records

/-!
Compiling a tree again.

Compiling edits the tree: the conditions it has passed lose their last colons. The code of a
condition does not depend on these colons, so a tree that was compiled, to its end or up to a
refused line, is compiled again as before, and nothing is left to edit. This holds of all data; where
the data are a program, the edited lines are those before the refused one.
-/

namespace Flowline

/-! ### Conditions without their colons -/

def conditionActions : List Action := [.if_, .elif, .while_]

def colons (n : Nat) : String := String.ofList (List.replicate n ':')

/-- A word is what is left of it, which ends with no colon, and colons. -/
lemma dropColons_spec (w : String) :
    EndsPlain (dropColons w) ∧ ∃ n, w = dropColons w ++ colons n := by
  have hsplit := List.takeWhile_append_dropWhile (p := (· == ':')) (l := w.toList.reverse)
  set cs := w.toList.reverse.takeWhile (· == ':')
  have hcs : cs = List.replicate cs.length ':' :=
    List.eq_replicate_of_mem fun c hc => by simpa using List.mem_takeWhile_imp hc
  constructor
  · intro h
    simp only [dropColons, Text.trimEnd, String.toList_ofList, List.getLast?_reverse] at h
    have := List.head?_dropWhile_not (· == ':') w.toList.reverse
    simp [h] at this
  · refine ⟨cs.length, String.toList_injective ?_⟩
    have hrev := congrArg List.reverse hsplit
    rw [List.reverse_append, List.reverse_reverse, hcs, List.reverse_replicate] at hrev
    simpa [dropColons, Text.trimEnd, colons] using hrev.symm

lemma dropColons_dropColons (w : String) : dropColons (dropColons w) = dropColons w := by
  simpa using dropColons_append (dropColons_spec w).1 0

lemma settleArgs_concat (args : List String) (last : String) :
    settleArgs (args ++ [last]) = args ++ [dropColons last] := by
  induction args with
  | nil => rfl
  | cons w args ih =>
    have hne : args ++ [last] ≠ [] := by simp
    rw [List.cons_append, settleArgs.eq_3 _ _ (fun h => hne h), ih, List.cons_append]

/-- Arguments that are settled lose the colons at the end of the last one. -/
lemma exists_settleArgs {args : List String} (h : args ≠ []) :
    ∃ init last n, EndsPlain last ∧ args = init ++ [last ++ colons n] ∧
      settleArgs args = init ++ [last] := by
  obtain rfl | ⟨init, last, rfl⟩ := List.eq_nil_or_concat' args
  · exact absurd rfl h
  · obtain ⟨hlast, n, hn⟩ := dropColons_spec last
    exact ⟨init, dropColons last, n, hlast, by rw [← hn], settleArgs_concat init last⟩

lemma settleArgs_settleArgs (args : List String) :
    settleArgs (settleArgs args) = settleArgs args := by
  rcases List.eq_nil_or_concat' args with rfl | ⟨args, last, rfl⟩
  · rfl
  · rw [settleArgs_concat, settleArgs_concat, dropColons_dropColons]

/-- The code of a condition does not depend on the colons at its end. -/
lemma conditionCode_settleArgs (a : Action) (keyword : String) (args : List String) :
    conditionCode a keyword (settleArgs args) = conditionCode a keyword args := by
  have hcode {ws : List String} (h : ws ≠ []) :
      conditionCode a keyword ws = .ok (keyword ++ " " ++ condition ws ++ ":") := by
    obtain ⟨v, vs, rfl⟩ := List.exists_cons_of_ne_nil h
    rfl
  rcases List.eq_nil_or_concat' args with rfl | ⟨args, last, rfl⟩
  · rfl
  · have hne : settleArgs (args ++ [last]) ≠ [] := by simp [settleArgs_concat]
    rw [hcode hne, hcode (by simp), condition, condition, settleArgs_settleArgs]

lemma code_settledArgs (a : Action) (args : List String) :
    a.code (Loose.settledArgs a args) = a.code args := by
  cases a with
  | if_ => exact conditionCode_settleArgs .if_ "if" args
  | elif => exact conditionCode_settleArgs .elif "elif" args
  | while_ => exact conditionCode_settleArgs .while_ "while" args
  | _ => rfl

lemma settledArgs_settledArgs (a : Action) (args : List String) :
    Loose.settledArgs a (Loose.settledArgs a args) = Loose.settledArgs a args := by
  cases a with
  | if_ | elif | while_ => exact settleArgs_settleArgs args
  | _ => rfl

namespace Loose

/-! ### The arguments of one line -/

/-- The second arguments are the first without the colons at the end of the last word. -/
inductive LosesColons : Datum → Datum → Prop
  | intro (ds : List Datum) {last : String} (hlast : EndsPlain last) (n : Nat) :
      LosesColons (.list (ds ++ [.text (last ++ colons n)])) (.list (ds ++ [.text last]))

lemma losesColons_settleArgs {args : List String} (h : args ≠ []) :
    LosesColons (.ofWords args) (.ofWords (settleArgs args)) := by
  obtain ⟨init, last, n, hlast, rfl, hsettled⟩ := exists_settleArgs h
  rw [hsettled]
  simpa [Datum.ofWords] using LosesColons.intro (init.map .text) hlast n

lemma conditionOf_concat (ds : List Datum) {last : String} (hlast : EndsPlain last) (n : Nat) :
    conditionOf (.list (ds ++ [.text (last ++ colons n)])) =
      (.list (ds ++ [.text last]), conditionOf.settled (ds ++ [.text last])) := by
  have hdrop : dropColons (last ++ colons n) = last := dropColons_append hlast n
  simp [conditionOf, hdrop]

/-- The only arguments that a condition edits are those that end with a word. -/
lemma conditionOf_node (d : Datum) :
    (conditionOf d).1 = d ∨ LosesColons d (conditionOf d).1 := by
  cases d with
  | list ds =>
    obtain rfl | ⟨ds, d, rfl⟩ := List.eq_nil_or_concat' ds
    · exact .inl rfl
    · cases d with
      | text w =>
        obtain ⟨hlast, n, hn⟩ := dropColons_spec w
        rw [hn, conditionOf_concat ds hlast n]
        exact .inr (.intro ds hlast n)
      | _ => exact .inl (by simp [conditionOf])
  | _ => exact .inl rfl

/-- The arguments of a condition are read alike with and without the colons. -/
lemma LosesColons.conditionCodeOf_eq {d d' : Datum} (h : LosesColons d d') (a : Action)
    (keyword : String) : conditionCodeOf a keyword d' = conditionCodeOf a keyword d := by
  obtain ⟨ds, hlast, n⟩ := h
  have hplain := conditionOf_concat ds hlast 0
  simp only [colons, List.replicate_zero, String.ofList_nil, String.append_empty] at hplain
  simp [conditionCodeOf, conditionOf_concat ds hlast n, hplain, Datum.truthy]

lemma LosesColons.words?_eq_none {d d' : Datum} (h : LosesColons d d') (hd : d.words? = none) :
    d'.words? = none := by
  obtain ⟨ds, hlast, n⟩ := h
  simpa [Datum.words?, Datum.text?] using hd

lemma conditionCodeOf_node (a : Action) (keyword : String) (d : Datum) :
    (conditionCodeOf a keyword d).1 = d ∨ LosesColons d (conditionCodeOf a keyword d).1 := by
  unfold conditionCodeOf
  split_ifs
  · exact .inl rfl
  · exact conditionOf_node d

lemma conditionCodeOf_again (a : Action) (keyword : String) (d : Datum) :
    conditionCodeOf a keyword (conditionCodeOf a keyword d).1 = conditionCodeOf a keyword d := by
  obtain hsame | hlost := conditionCodeOf_node a keyword d
  · rw [hsame]
  · exact hlost.conditionCodeOf_eq a keyword

/-- Arguments lose nothing but colons, and these only on a condition. -/
def Edits (a : Action) (d d' : Datum) : Prop := d' = d ∨ a ∈ conditionActions ∧ LosesColons d d'

lemma code_edits (a : Action) (d : Datum) : Edits a d (code a d).1 := by
  cases a with
  | if_ => exact (conditionCodeOf_node .if_ "if" d).imp_right (.intro (by decide))
  | elif => exact (conditionCodeOf_node .elif "elif" d).imp_right (.intro (by decide))
  | while_ => exact (conditionCodeOf_node .while_ "while" d).imp_right (.intro (by decide))
  | _ => exact .inl rfl

lemma code_again (a : Action) (d : Datum) : code a (code a d).1 = code a d := by
  cases a with
  | if_ => exact conditionCodeOf_again .if_ "if" d
  | elif => exact conditionCodeOf_again .elif "elif" d
  | while_ => exact conditionCodeOf_again .while_ "while" d
  | _ => rfl

lemma eq_ofWords {d : Datum} {ws : List String} (h : d.words? = some ws) : d = .ofWords ws := by
  cases d with
  | list ds =>
    simp only [Datum.words?] at h
    induction ds generalizing ws with
    | nil =>
      obtain rfl : [] = ws := by simpa using h
      rfl
    | cons d ds ih =>
      cases d with
      | text w =>
        obtain ⟨vs, hvs, rfl⟩ : ∃ vs, ds.mapM Datum.text? = some vs ∧ w :: vs = ws := by
          simpa [Datum.text?, Option.bind_eq_some_iff] using h
        have := ih hvs
        simp_all [Datum.ofWords]
      | _ => simp [Datum.text?] at h
  | _ => simp [Datum.words?] at h

/-- A line whose arguments are no words is written by the code of its action. -/
lemma write_of_words?_eq_none {d : Datum} (hd : d.words? = none) (i : Indent) (a : Action) :
    write i a d =
      (if (code a d).2.toBool && a.opensBlock then i.deeper else i, (code a d).1,
        (code a d).2.map (i.pad ++ ·)) := by
  simp only [write, hd]
  rcases code a d with ⟨d', f | text⟩ <;> rfl

lemma edits_settledArgs (a : Action) {args : List String} {text : String}
    (h : a.code args = .ok text) : Edits a (.ofWords args) (.ofWords (settledArgs a args)) := by
  have hne (b : Action) (keyword : String) (hb : conditionCode b keyword args = .ok text) :
      args ≠ [] := by
    rintro rfl
    cases hb
  cases a with
  | if_ => exact .inr ⟨by decide, losesColons_settleArgs (hne .if_ "if" h)⟩
  | elif => exact .inr ⟨by decide, losesColons_settleArgs (hne .elif "elif" h)⟩
  | while_ => exact .inr ⟨by decide, losesColons_settleArgs (hne .while_ "while" h)⟩
  | _ => exact .inl rfl

lemma write_edits (i : Indent) (a : Action) (d : Datum) : Edits a d (write i a d).2.1 := by
  cases hd : d.words? with
  | some ws =>
    rw [eq_ofWords hd, write_ofWords, Indent.write]
    cases hcode : a.code ws with
    | ok text => exact edits_settledArgs a hcode
    | error e => exact .inl rfl
  | none =>
    rw [write_of_words?_eq_none hd]
    exact code_edits a d

lemma write_again (i : Indent) (a : Action) (d : Datum) :
    write i a (write i a d).2.1 = write i a d := by
  cases hd : d.words? with
  | some ws =>
    rw [eq_ofWords hd, write_ofWords, Indent.write]
    cases hcode : a.code ws with
    | ok text =>
      simp only [write_ofWords, Indent.write, code_settledArgs, hcode, settledArgs_settledArgs]
    | error e => simp only [write_ofWords, Indent.write, hcode]
  | none =>
    have hnone : (code a d).1.words? = none := by
      obtain hsame | ⟨-, hlost⟩ := code_edits a d
      · rwa [hsame]
      · exact hlost.words?_eq_none hd
    rw [write_of_words?_eq_none hd]
    dsimp only
    rw [write_of_words?_eq_none hnone, code_again]

/-! ### Nodes of data -/

/-- The second statement is the first, except that a condition has lost its last colons. -/
inductive LineEdit : Datum → Datum → Prop
  | same (d : Datum) : LineEdit d d
  | condition {fields : Record} {a : Action} {args args' : Datum}
      (hkind : isKind "Line" (Record.getD fields "type" .null) = true)
      (haction : actionOf (.record fields) = some a) (ha : a ∈ conditionActions)
      (hargs : Record.get? fields "args" = some args) (hlost : LosesColons args args') :
      LineEdit (.record fields) (.record (Record.put fields "args" args'))

/-- The second node is the first, except that its children have been edited. -/
inductive NodeEdit (children : String) (Edit : Datum → Datum → Prop) : Datum → Datum → Prop
  | same (d : Datum) : NodeEdit children Edit d d
  | node {fields : Record} {ds ds' : List Datum}
      (hchildren : Record.get? fields children = some (.list ds))
      (hedit : List.Forall₂ Edit ds ds') :
      NodeEdit children Edit (.record fields) (.record (Record.put fields children (.list ds')))

/-- The second tree is the first, except that conditions in it have lost their last colons. -/
def TreeEdit : Datum → Datum → Prop :=
  NodeEdit "flows" (NodeEdit "segments" (NodeEdit "lines" LineEdit))

/-- A node that was compiled is compiled again as before, and was edited only as told. -/
structure Again (Edit : Datum → Datum → Prop) (each : Indent → Datum → Outcome) : Prop where
  edit : ∀ i d, Edit d (each i d).node
  again : ∀ i d, each i (each i d).node = each i d

lemma actionOf_put (fields : Record) (d : Datum) :
    actionOf (.record (Record.put fields "args" d)) = actionOf (.record fields) := by
  simp [actionOf, Record.get?, Record.lookup_put]

lemma isKind_put (name : String) (fields : Record) {field : String} (h : "type" ≠ field)
    (d : Datum) :
    isKind name (Record.getD (Record.put fields field d) "type" .null) =
      isKind name (Record.getD fields "type" .null) := by
  rw [Record.getD_put, if_neg h]

/-- A line is left alone, or its arguments are put where they stood. -/
lemma line_cases (i : Indent) (node : Datum) :
    (line i node).node = node ∨
      ∃ fields a args, node = .record fields ∧
        isKind "Line" (Record.getD fields "type" .null) = true ∧
        actionOf node = some a ∧ Record.get? fields "args" = some args ∧
        line i node = ⟨(write i a args).1, .record (Record.put fields "args" (write i a args).2.1),
          (write i a args).2.2.map ([·])⟩ := by
  cases node with
  | record fields =>
    by_cases hkind : isKind "Line" (Record.getD fields "type" .null) = true
    · cases haction : actionOf (.record fields) with
      | none => exact .inl (by simp [line, hkind, haction])
      | some a =>
        cases hargs : Record.get? fields "args" with
        | none => exact .inl (by simp [line, hkind, haction, hargs])
        | some args =>
          exact .inr ⟨fields, a, args, rfl, hkind, rfl, hargs,
            by simp [line, hkind, haction, hargs]⟩
    · exact .inl (by simp [line, hkind])
  | _ => exact .inl rfl

lemma again_line : Again LineEdit line where
  edit i d := by
    obtain hsame | ⟨fields, a, args, rfl, hkind, haction, hargs, hline⟩ := line_cases i d
    · rw [hsame]
      exact .same d
    · rw [hline]
      obtain hsame | ⟨ha, hlost⟩ := write_edits i a args
      · rw [hsame, Record.put_of_lookup hargs]
        exact .same _
      · exact .condition hkind haction ha hargs hlost
  again i d := by
    obtain hsame | ⟨fields, a, args, rfl, hkind, haction, hargs, hline⟩ := line_cases i d
    · rw [hsame]
    · have hput := (actionOf_put fields (write i a args).2.1).trans haction
      have htype := isKind_put "Line" fields (by decide : "type" ≠ "args")
      rw [hline]
      simp only [line, htype, hkind, hput, Record.get?_put, write_again, Record.put_put]
      rfl

lemma LineEdit.reads {d d' : Datum} (h : LineEdit d d') :
    kind d' = kind d ∧ actionOf d' = actionOf d := by
  cases h with
  | same => exact ⟨rfl, rfl⟩
  | condition =>
    refine ⟨?_, actionOf_put _ _⟩
    simp [kind, Datum.field, Record.getD_put]

lemma chainedLine_eq (i : Indent) (d : Datum) :
    chainedLine i d = line ((actionOf d).elim i i.forAction) d := by
  cases d with
  | record fields =>
    rw [chainedLine]
    cases actionOf (.record fields) <;> rfl
  | _ => rfl

lemma again_chainedLine : Again LineEdit chainedLine where
  edit i d := by
    rw [chainedLine_eq]
    exact again_line.edit _ d
  again i d := by
    simp only [chainedLine_eq]
    rw [(again_line.edit _ d).reads.2, again_line.again]

lemma statement_cases (i : Indent) (d : Datum) :
    (statement i d).node = d ∨
      kind d = .ok (.text "Line") ∧ (statement i d).node = (chainedLine i d).node := by
  unfold statement
  split
  case h_2 hkind =>
    refine .inr ⟨hkind, ?_⟩
    split <;> simp_all
  all_goals exact .inl rfl

lemma again_statement : Again LineEdit statement where
  edit i d := by
    obtain hsame | ⟨-, hnode⟩ := statement_cases i d
    · rw [hsame]
      exact .same d
    · rw [hnode]
      exact again_chainedLine.edit i d
  again i d := by
    obtain hsame | ⟨hkind, hnode⟩ := statement_cases i d
    · rw [hsame]
    · have hkind' := (again_chainedLine.edit i d).reads.1.trans hkind
      rw [hnode]
      simp only [statement, hkind, hkind', again_chainedLine.again]

section

variable {Edit : Datum → Datum → Prop} {each : Indent → Datum → Outcome}

lemma Again.sequence_edit (h : Again Edit each) (hrefl : ∀ d, Edit d d) (i : Indent)
    (ds : List Datum) : List.Forall₂ Edit ds (sequence each i ds).2.1 := by
  induction ds generalizing i with
  | nil => exact .nil
  | cons d ds ih =>
    have hd := h.edit i d
    rw [sequence]
    rcases hout : each i d with ⟨j, d', f | lines⟩
    · rw [hout] at hd
      exact .cons hd (List.forall₂_same.mpr fun e _ => hrefl e)
    · rw [hout] at hd
      exact .cons hd (ih j)

lemma Again.sequence_again (h : Again Edit each) (i : Indent) (ds : List Datum) :
    sequence each i (sequence each i ds).2.1 = sequence each i ds := by
  induction ds generalizing i with
  | nil => rfl
  | cons d ds ih =>
    have hd := h.again i d
    rcases hout : each i d with ⟨j, d', f | lines⟩
    · rw [hout] at hd
      simp only [sequence, hout, hd]
    · rw [hout] at hd
      simp only [sequence, hout, hd, ih]

/-- A node is left alone, or its children are put where they stood. -/
lemma container_cases (name children : String) (refusal : EmitError)
    (each : Indent → Datum → Outcome) (i : Indent) (node : Datum) :
    (container name children refusal each i node).node = node ∨
      ∃ fields ds, node = .record fields ∧
        isKind name (Record.getD fields "type" .null) = true ∧
        Record.get? fields children = some (.list ds) ∧
        container name children refusal each i node =
          ⟨(sequence each i ds).1,
            .record (Record.put fields children (.list (sequence each i ds).2.1)),
            (sequence each i ds).2.2⟩ := by
  cases node with
  | record fields =>
    by_cases hkind : isKind name (Record.getD fields "type" .null) = true
    · cases hget : Record.get? fields children with
      | none => exact .inl (by simp [container, hkind, hget])
      | some d =>
        cases d with
        | list ds => exact .inr ⟨fields, ds, rfl, hkind, hget, by simp [container, hkind, hget]⟩
        | _ =>
          left
          simp only [container, hkind, hget, Bool.not_true, Bool.false_eq_true, if_false]
          split <;> rfl
    · exact .inl (by simp [container, hkind])
  | _ => exact .inl rfl

lemma Again.container (h : Again Edit each) (hrefl : ∀ d, Edit d d) (name : String)
    {children : String} (refusal : EmitError) (hc : "type" ≠ children) :
    Again (NodeEdit children Edit) (container name children refusal each) where
  edit i d := by
    obtain hsame | ⟨fields, ds, rfl, -, hget, hout⟩ :=
      container_cases name children refusal each i d
    · rw [hsame]
      exact .same d
    · rw [hout]
      exact .node hget (h.sequence_edit hrefl i ds)
  again i d := by
    obtain hsame | ⟨fields, ds, rfl, hkind, hget, hout⟩ :=
      container_cases name children refusal each i d
    · rw [hsame]
    · have htype := isKind_put name fields hc
      rw [hout]
      simp only [Loose.container, htype, hkind, Record.get?_put, h.sequence_again, Record.put_put]
      rfl

end

lemma again_segment : Again (NodeEdit "lines" LineEdit) segment :=
  again_statement.container .same "Segment" .notSegment (by decide)

lemma again_flow : Again (NodeEdit "segments" (NodeEdit "lines" LineEdit)) flow :=
  again_segment.container .same "Flow" .notFlow (by decide)

lemma again_program : Again TreeEdit (container "Program" "flows" .notProgram flow) :=
  again_flow.container .same "Program" .notProgram (by decide)

lemma compile_edit (tree : Datum) : TreeEdit tree (compile tree).1 := again_program.edit {} tree

lemma compile_again (tree : Datum) : compile (compile tree).1 = compile tree := by
  unfold compile
  simp only [again_program.again]

end Loose

/-! ### Programs -/

/-- The second statement is the first, except that a condition has lost the colons at the end of its
last argument. -/
inductive Statement.LosesColons : Statement → Statement → Prop
  | condition {a : Action} (ha : a ∈ conditionActions) (args : List String) {last : String}
      (hlast : EndsPlain last) (n : Nat) (state : String) :
      LosesColons (.line a (args ++ [last ++ colons n]) state) (.line a (args ++ [last]) state)
  | other {s : Statement} (h : ∀ a args state, s = .line a args state → a ∉ conditionActions) :
      LosesColons s s

/-- Where compiling stops: at the end, or before a statement that does not fit. -/
inductive StopsBefore : List Statement → Except EmitError String → Prop
  | done (text : String) : StopsBefore [] (.ok text)
  | refused {s : Statement} {e : EmitError} (h : s.Unfit e.message) (after : List Statement) :
      StopsBefore (s :: after) (.error e)

def Program.shape (p : Program Statement) : List (List Nat) := p.flows.map (·.map List.length)

/-- The second program is the first as compiling with the given outcome leaves it. -/
structure Program.SettlesTo (p q : Program Statement) (code : Except EmitError String) : Prop where
  shape : q.shape = p.shape
  statements : ∃ passed passed' rest,
    p.statements = passed ++ rest ∧ q.statements = passed' ++ rest ∧
    (∀ s ∈ passed, ∀ said, ¬ s.Unfit said) ∧ StopsBefore rest code ∧
    List.Forall₂ Statement.LosesColons passed passed'

lemma Statement.losesColons_settle {s : Statement} (h : ∀ said, ¬ s.Unfit said) :
    s.LosesColons s.settle := by
  cases s with
  | line a args state =>
    have hcondition (ha : a ∈ conditionActions) (hne : args ≠ []) :
        LosesColons (.line a args state) (.line a (settleArgs args) state) := by
      obtain ⟨init, last, n, hlast, rfl, hsettled⟩ := exists_settleArgs hne
      rw [hsettled]
      exact .condition ha init hlast n state
    cases a with
    | if_ | elif | while_ => exact hcondition (by decide) fun hnil => h _ ⟨hnil, rfl⟩
    | _ => exact .other (by rintro - - - ⟨⟩; decide)
  | _ => exact .other (by simp)

/-- The statements that were compiled fit, and the next does not. -/
lemma emitAll_passed (ss : List Statement) (i : Indent) :
    (∀ s ∈ ss.take (emitAll i ss).passed, ∀ said, ¬ s.Unfit said) ∧
      ((emitAll i ss).refused = none ∧ ss.drop (emitAll i ss).passed = [] ∨
        ∃ e s after, (emitAll i ss).refused = some e ∧
          ss.drop (emitAll i ss).passed = s :: after ∧ s.Unfit e.message) := by
  induction ss generalizing i with
  | nil => exact ⟨by simp, .inl ⟨rfl, rfl⟩⟩
  | cons s ss ih =>
    obtain ⟨hfits, j, line, hs⟩ | ⟨j, e, hs, -, hunfit⟩ := emit_spec s i
    · simp only [emitAll, hs, List.take_succ_cons, List.drop_succ_cons, List.forall_mem_cons]
      exact ⟨⟨hfits, (ih j).1⟩, (ih j).2⟩
    · simp only [emitAll, hs]
      exact ⟨by simp, .inr ⟨e, s, ss, rfl, rfl, (hunfit _).mpr rfl⟩⟩

section

variable {α : Type} (f : α → α)

lemma flatten_mapFirst (k : Nat) (gs : List (List α)) :
    (mapFirst f k gs).flatten = (gs.flatten.take k).map f ++ gs.flatten.drop k := by
  induction gs generalizing k with
  | nil => simp [mapFirst]
  | cons g gs ih =>
    rw [mapFirst, List.flatten_cons, ih, List.flatten_cons, List.take_append, List.drop_append]
    -- the first `k` elements end in this list, or take all of it
    rcases Nat.le_total k g.length with hk | hk
    · simp [Nat.sub_eq_zero_of_le hk]
    · simp [List.drop_eq_nil_of_le hk]

lemma map_length_mapFirst (k : Nat) (gs : List (List α)) :
    (mapFirst f k gs).map List.length = gs.map List.length := by
  induction gs generalizing k with
  | nil => rfl
  | cons g gs ih =>
    rw [mapFirst, List.map_cons, ih, List.map_cons, List.length_append, List.length_map,
      ← List.length_append, List.take_append_drop]

lemma flatten_go (k : Nat) (flows : List (List (List α))) :
    (Program.mapFirst.go f k flows).flatten.flatten =
      (flows.flatten.flatten.take k).map f ++ flows.flatten.flatten.drop k := by
  induction flows generalizing k with
  | nil => simp [Program.mapFirst.go]
  | cons flow flows ih =>
    have hcons := flatten_mapFirst f k [flow.flatten, flows.flatten.flatten]
    simp only [mapFirst, List.flatten_cons, List.flatten_nil, List.append_nil] at hcons
    rw [Program.mapFirst.go, List.flatten_cons, List.flatten_append, ih, flatten_mapFirst, hcons,
      List.flatten_cons, List.flatten_append]

lemma shape_go (k : Nat) (flows : List (List (List α))) :
    (Program.mapFirst.go f k flows).map (·.map List.length) = flows.map (·.map List.length) := by
  induction flows generalizing k with
  | nil => rfl
  | cons flow flows ih =>
    rw [Program.mapFirst.go, List.map_cons, List.map_cons, ih, map_length_mapFirst]

end

/-- Compiling settles the statements before the one that is refused. -/
lemma compile_settlesTo (p : Program Statement) : p.SettlesTo p.compile.tree p.compile.code where
  shape := shape_go Statement.settle _ p.flows
  statements := by
    obtain ⟨hfits, hstop⟩ := emitAll_passed p.statements {}
    refine ⟨_, _, _, (List.take_append_drop (emitAll {} p.statements).passed p.statements).symm,
      flatten_go Statement.settle _ p.flows, hfits, ?_, ?_⟩
    · obtain ⟨hnone, hrest⟩ | ⟨e, s, after, hsome, hrest, hunfit⟩ := hstop
      · simp only [Program.compile, hnone, hrest]
        exact .done _
      · simp only [Program.compile, hsome, hrest]
        exact .refused hunfit after
    · refine List.forall₂_map_right_iff.mpr (List.forall₂_same.mpr fun s hs => ?_)
      exact Statement.losesColons_settle (hfits s hs)

/-- **Compiling again**: whatever the tree, compiling takes nothing from it but colons at the end of
conditions, and compiling what is left gives the same text or the same fault and leaves it as it is.
In the tree of a program the conditions that lose their colons are all those before the line that is
refused, if one is. -/
theorem compile_settles_once :
    (∀ tree, Loose.TreeEdit tree (Loose.compile tree).1 ∧
      Loose.compile (Loose.compile tree).1 = Loose.compile tree) ∧
    ∀ p : Program Statement, ∃ q code,
      Loose.compile (p.toDatum Statement.toDatum) =
        (q.toDatum Statement.toDatum, code.mapError .emit) ∧
      p.SettlesTo q code :=
  ⟨fun tree => ⟨Loose.compile_edit tree, Loose.compile_again tree⟩,
    fun p => ⟨p.compile.tree, p.compile.code, Loose.compile_toDatum p, compile_settlesTo p⟩⟩

/-- The second condition keeps its colon: the line before it is refused. -/
example :
    (⟨[[[.line .if_ ["x", "是", "1:::"] "~"], [.line .print ["y:"] "~", .line .set ["z"] "~",
      .line .while_ ["w:"] "~"]]]⟩ : Program Statement).compile.tree =
    ⟨[[[.line .if_ ["x", "是", "1"] "~"], [.line .print ["y:"] "~", .line .set ["z"] "~",
      .line .while_ ["w:"] "~"]]]⟩ := by
  decide +kernel

end Flowline
