import Flowline.Editor.Analysis
import Flowline.Proofs.Grammar
import Flowline.Proofs.Reading

/-!
The compiler and the editor agree on every undisputed text.

Both find the same tokens. The editor reads a token by its own tables and looks the word after an
arrow up by its place, but comes to the same statement, except that a line loses the colon of its last
word. It passes over a token that is no statement and gathers the others in one pass, so its program
is the program of the tokens that the compiler accepts, and its errors are the compiler's refusals.
-/

namespace Flowline

open Editor (actionOf? colonClauses arrowAt? statementOf dropLastColon Gathering Placed PlacedToken)

/-! ### One token -/

lemma actionOf?_words (a : Action) :
    actionOf? a.words.1 = some a ∧ actionOf? a.words.2 = some a := by
  cases a <;> decide

lemma actionOf?_eq (word : String) : actionOf? word = Action.ofWord? word := by
  ext a
  rw [Action.ofWord?_eq_some_iff]
  constructor
  · intro h
    have hform := List.find?_some h
    simpa [Editor.Keyword.ofAction, Action.IsForm] using hform
  · rintro (rfl | rfl)
    · exact (actionOf?_words a).1
    · exact (actionOf?_words a).2

lemma colonClauses_find (name : String) :
    (colonClauses.find? (·.1.contains name)).map Prod.snd = Token.colonAction? name := by
  unfold Token.colonAction? colonClauses
  split_ifs with h₁ h₂ h₃ <;> simp_all

lemma getElem?_idxOf (sign : String) (args : List String) :
    args[args.idxOf sign + 1]? = Token.wordAfter sign args := by
  unfold Token.wordAfter
  induction args with
  | nil => rfl
  | cons w ws ih =>
    by_cases hw : w = sign
    · subst hw
      simp [List.head?_eq_getElem?]
    · have hbeq : (w == sign) = false := by simpa using hw
      rw [List.idxOf_cons, hbeq, cond_false, List.getElem?_cons_succ, ih, List.dropWhile_cons]
      simp [hw]

def dropFinalColon (args : List String) : List String :=
  args.dropLast ++ (args.getLast?.map Token.dropColon).toList

lemma dropLastColon_eq (args : List String) : dropLastColon args = dropFinalColon args := by
  fun_induction dropLastColon args with
  | case1 => rfl
  | case2 w => rfl
  | case3 w ws hne ih =>
    rcases ws with _ | ⟨x, xs⟩
    · exact absurd rfl hne
    · rw [ih]
      rfl

def Statement.dropColon : Statement → Statement
  | .line action args state => .line action (dropFinalColon args) state
  | s => s

lemma arrowAt?_of_right {args : List String} (h : "->" ∈ args) :
    arrowAt? args = some (.right, args.idxOf "->") := by
  simp [arrowAt?, Direction.sign, h]

lemma arrowAt?_of_left {args : List String} (hr : "->" ∉ args) (hl : "<-" ∈ args) :
    arrowAt? args = some (.left, args.idxOf "<-") := by
  simp [arrowAt?, Direction.sign, hr, hl]

lemma arrowAt?_of_none {args : List String} (hr : "->" ∉ args) (hl : "<-" ∉ args) :
    arrowAt? args = none := by
  simp [arrowAt?, Direction.sign, hr, hl]

lemma statementOf_eq (t : Token) : statementOf t = t.statement.map Statement.dropColon := by
  -- both readers try the forms in the same order, so they are compared form by form
  have hends : Editor.blockEndKeyword.forms.contains t.action = isBlockEnd t.action := rfl
  have hstates : Editor.lineStateKeywords.any (·.forms.contains t.state) =
      isLineState t.state := by
    simp [Editor.lineStateKeywords, Editor.markKeyword, isLineState, lineStates]
  unfold statementOf Token.statement
  rw [hends, hstates]
  by_cases hend : isBlockEnd t.action = true
  · rw [if_pos hend, if_pos hend]
    rfl
  rw [if_neg hend, if_neg hend]
  by_cases hstate : (!isLineState t.state) = true
  · rw [if_pos hstate, if_pos hstate]
    rfl
  rw [if_neg hstate, if_neg hstate]
  rcases Token.colonName? t.action with _ | name
  swap
  · simp only [← colonClauses_find name]
    generalize colonClauses.find? (fun x => x.1.contains name) = clause
    rcases clause with _ | ⟨words, a⟩ <;> rfl
  by_cases hright : "->" ∈ t.args
  · rw [arrowAt?_of_right hright, Token.arrow?_of_right hright]
    simp only [getElem?_idxOf]
    rcases Token.wordAfter "->" t.args with _ | word <;> rfl
  by_cases hleft : "<-" ∈ t.args
  · rw [arrowAt?_of_left hright hleft, Token.arrow?_of_left hright hleft]
    simp only [getElem?_idxOf]
    rcases Token.wordAfter "<-" t.args with _ | word <;> rfl
  rw [arrowAt?_of_none hright hleft, Token.arrow?_of_none hright hleft]
  simp only [actionOf?_eq, dropLastColon_eq]
  rcases Action.ofWord? t.action with _ | a <;> rfl

/-! ### Gathering segments -/

def addAll (g : Gathering) (xs : List (Placed × Bool)) : Gathering :=
  xs.foldl (fun g x => g.add x.1 x.2) g

/-- The current segment counts as leaves that end nothing. -/
def pending (ps : List Placed) : List (Placed × Bool) := ps.map fun p => (p, false)

lemma cutAfter_pending (ps : List Placed) :
    cutAfter (pending ps) = if ps.isEmpty then [] else [ps] := by
  induction ps with
  | nil => rfl
  | cons p ps ih =>
    have hcons : pending (p :: ps) = (p, false) :: pending ps := rfl
    rw [hcons, cutAfter, ih]
    rcases ps with _ | ⟨q, qs⟩ <;> rfl

lemma cutAfter_pending_last (ps : List Placed) (p : Placed) (xs : List (Placed × Bool)) :
    cutAfter (pending ps ++ (p, true) :: xs) = (ps ++ [p]) :: cutAfter xs := by
  induction ps with
  | nil => rfl
  | cons q ps ih =>
    have hcons : pending (q :: ps) = (q, false) :: pending ps := rfl
    rw [hcons, List.cons_append, cutAfter, ih]
    rfl

/-- Gathering in one pass cuts after the flagged leaves. The segments that are closed stay as they
are, and the current one is still to be cut. -/
lemma segments_addAll (g : Gathering) (xs : List (Placed × Bool)) :
    (addAll g xs).segments = g.closed ++ cutAfter (pending g.current ++ xs) := by
  induction xs generalizing g with
  | nil =>
    rw [List.append_nil, cutAfter_pending]
    unfold addAll Gathering.segments
    rw [List.foldl_nil]
    split_ifs
    · simp
    · rfl
  | cons x xs ih =>
    obtain ⟨p, last⟩ := x
    have hstep : addAll g ((p, last) :: xs) = addAll (g.add p last) xs := rfl
    rw [hstep, ih]
    cases last with
    | true =>
      rw [cutAfter_pending_last]
      simp [Gathering.add, pending]
    | false => simp [Gathering.add, pending]

def placedLeaves (ts : List PlacedToken) : List (Placed × Bool) :=
  ts.filterMap fun t =>
    (statementOf t.token).toOption.map fun s => (⟨s, t.line⟩, t.token.endsSegment)

lemma foldl_take (g : Gathering) (ts : List PlacedToken) :
    ts.foldl Gathering.take g = addAll g (placedLeaves ts) := by
  induction ts generalizing g with
  | nil => rfl
  | cons t ts ih =>
    rw [List.foldl_cons, ih]
    unfold placedLeaves Gathering.take
    rw [List.filterMap_cons]
    rcases statementOf t.token with e | s <;> rfl

lemma program_gathered (ts : List PlacedToken) :
    (ts.foldl Gathering.take {}).program = .ofFlagged (placedLeaves ts) := by
  have hsegments := segments_addAll {} (placedLeaves ts)
  rw [foldl_take]
  unfold Gathering.program Program.ofFlagged
  rw [hsegments]
  simp only [pending, List.map_nil, List.nil_append]
  rcases cutAfter (placedLeaves ts) with _ | ⟨g, gs⟩ <;> rfl

def leaves (ts : List Token) : List (Statement × Bool) :=
  ts.filterMap fun t => t.statement.toOption.map fun s => (s, t.endsSegment)

lemma placedLeaves_eq (ts : List PlacedToken) :
    (placedLeaves ts).map (fun x => (x.1.statement, x.2)) =
      (leaves (ts.map (·.token))).map fun x => (x.1.dropColon, x.2) := by
  unfold placedLeaves leaves
  rw [List.map_filterMap, List.map_filterMap, List.filterMap_map]
  refine List.filterMap_congr fun t _ => ?_
  rw [statementOf_eq, Function.comp_apply]
  rcases t.token.statement with e | s <;> rfl

lemma parseTokens_eq_leaves {ts : List Token} (h : ∀ t ∈ ts, ∃ s, t.statement = .ok s) :
    parseTokens ts = .ok (.ofFlagged (leaves ts)) := by
  obtain ⟨ss, hp, hall⟩ | ⟨e, before, t, after, -, rfl, -, ht⟩ := parseTokens_spec ts
  · have hzip : ss.zip (ts.map Token.endsSegment) = leaves ts := by
      clear hp h
      induction hall with
      | nil => rfl
      | @cons t s ts ss hs hall ih =>
        rw [List.map_cons, List.zip_cons_cons, ih]
        unfold leaves
        rw [List.filterMap_cons, hs]
        rfl
    rw [hp, hzip]
  · obtain ⟨s, hs⟩ := h t (by simp)
    rw [ht] at hs
    cases hs

/-! ### Refusals -/

def Token.refusal? (t : Token) : Option String :=
  match parseTokens [t] with
  | .ok _ => none
  | .error e => some e.message

lemma Token.refusal?_of_ok {t : Token} {s : Statement} (h : t.statement = .ok s) :
    t.refusal? = none := by
  have hp : parseTokens [t] = .ok (.ofFlagged (leaves [t])) :=
    parseTokens_eq_leaves fun u hu => ⟨s, by rw [List.mem_singleton.mp hu, h]⟩
  simp only [Token.refusal?, hp]

lemma Token.refusal?_of_error {t : Token} {e : ParseError} (h : t.statement = .error e) :
    t.refusal? = some e.message := by
  simp [Token.refusal?, parseTokens, h, bind, Except.bind]

lemma refusals_eq_nil {ts : List Token} (h : ∀ t ∈ ts, ∃ s, t.statement = .ok s) :
    ts.filterMap Token.refusal? = [] := by
  rw [List.filterMap_eq_nil_iff]
  intro t ht
  obtain ⟨s, hs⟩ := h t ht
  exact Token.refusal?_of_ok hs

/-- The first refusal in a list of tokens is the refusal of the list. -/
lemma head?_refusals (ts : List Token) :
    (ts.filterMap Token.refusal?).head? =
      match parseTokens ts with
      | .ok _ => none
      | .error e => some e.message := by
  obtain ⟨ss, hp, hall⟩ | ⟨e, before, t, after, he, rfl, hbefore, ht⟩ := parseTokens_spec ts
  · have hok : ∀ t ∈ ts, ∃ s, t.statement = .ok s :=
      ((List.forall₂_and_left ts ss).mp (hall.imp fun t s h => ⟨⟨s, h⟩, h⟩)).1
    rw [hp, refusals_eq_nil hok]
    rfl
  · rw [he, List.filterMap_append, refusals_eq_nil hbefore, List.filterMap_cons,
      Token.refusal?_of_error ht]
    rfl

lemma leaves_filter (ts : List Token) :
    leaves (ts.filter fun t => t.refusal?.isNone) = leaves ts := by
  unfold leaves
  rw [List.filterMap_filter]
  refine List.filterMap_congr fun t _ => ?_
  rcases hs : t.statement with e | s
  · simp [Except.toOption]
  · simp [Token.refusal?_of_ok hs]

lemma parseTokens_accepted (ts : List Token) :
    parseTokens (ts.filter fun t => t.refusal?.isNone) = .ok (.ofFlagged (leaves ts)) := by
  rw [← leaves_filter]
  refine parseTokens_eq_leaves fun t ht => ?_
  rcases hs : t.statement with e | s
  · simp [Token.refusal?_of_error hs] at ht
  · exact ⟨s, rfl⟩

lemma refusalText_eq {t : Token} {e : ParseError} (hstate : t.state ∈ lineStates)
    (h : t.statement = .error e) : Editor.refusalText e = e.message := by
  have hmark : isLineState t.state = true := by simpa [isLineState] using hstate
  cases e with
  | badState state =>
    unfold Token.statement at h
    simp only [hmark, Bool.not_true, Bool.false_eq_true, if_false] at h
    repeat' split at h
    all_goals cases h
  | danglingArrow => rfl
  | unknownAction word => rfl

def errorsOf (ds : List Editor.Diagnostic) : List (String × Nat) :=
  (ds.filter fun d => d.severity == .error).map fun d => (d.message, d.line)

lemma errorsOf_append (ds es : List Editor.Diagnostic) :
    errorsOf (ds ++ es) = errorsOf ds ++ errorsOf es := by
  simp [errorsOf]

def errorOf? (t : PlacedToken) : Option (String × Nat) :=
  match t.token.statement with
  | .ok _ => none
  | .error e => some (Editor.refusalText e, t.line)

lemma errorsOf_blockStep (depth : Nat) (t : PlacedToken) :
    errorsOf (Editor.blockStep depth t).2 = (errorOf? t).toList := by
  unfold Editor.blockStep errorOf?
  rw [statementOf_eq]
  rcases t.token.statement with e | s
  · rfl
  · cases s with
    | line action args state => rfl
    | block name state => rfl
    | blockEnd state =>
      simp only [Except.map, Statement.dropColon]
      split_ifs <;> rfl
    | arrow source target direction state => rfl

lemma errorsOf_blockReports (depth : Nat) (ts : List PlacedToken) :
    errorsOf (Editor.blockReports depth ts) = ts.filterMap errorOf? := by
  induction ts generalizing depth with
  | nil => rfl
  | cons t ts ih =>
    rw [Editor.blockReports, errorsOf_append, ih, errorsOf_blockStep, List.filterMap_cons]
    rcases errorOf? t with _ | e <;> rfl

/-- The errors of an analysis are those that its tokens give. -/
lemma errorsOf_analyze (source : List Char) :
    errorsOf (Editor.analyze source).diagnostics =
      errorsOf (Editor.blockReports 0 (Editor.tokens source)) := by
  have hwarnings : errorsOf ((Editor.warnings source).map Editor.Diagnostic.ofWarning) = [] := by
    simp [errorsOf, Editor.Diagnostic.ofWarning]
  have hunclosed : errorsOf (Editor.unclosedReport (Editor.tokens source)) = [] := by
    unfold Editor.unclosedReport
    split_ifs <;> rfl
  unfold Editor.analyze
  simp only [errorsOf_append, hwarnings, hunclosed, List.nil_append, List.append_nil]

/-! ### Whole texts -/

structure Agreement (source : String) : Prop where
  /-- They find the same tokens on the same lines. -/
  tokens : (Editor.tokens source.toList).map (fun t => (t.token, t.line)) = tokenize source
  /-- They warn of the same comments after other text. -/
  warnings :
    ((Editor.warnings source.toList).map (·.message)).filter (· != Editor.unclosedCommentWarning) =
      sourceWarnings source
  /-- The editor has one error for each token that the compiler refuses by itself, in order and with
  the compiler's message. -/
  errors :
    errorsOf (Editor.analyze source.toList).diagnostics =
      (tokenize source).filterMap fun x => x.1.refusal?.map (·, x.2)
  /-- It has no error exactly if the compiler accepts the source. -/
  accepted :
    errorsOf (Editor.analyze source.toList).diagnostics = [] ↔ ∃ p, parse source = .ok p
  /-- Its first error is the compiler's. -/
  firstError : ∀ e, parse source = .error e →
    ((errorsOf (Editor.analyze source.toList).diagnostics).head?).map Prod.fst = some e.message
  /-- Its program is that of the tokens which are not refused, and every line in it has lost a colon
  at the end of its last word. -/
  program : ∃ p,
    parseTokens (((tokenize source).map Prod.fst).filter fun t => t.refusal?.isNone) = .ok p ∧
      (Editor.analyze source.toList).program.map Placed.statement = p.map Statement.dropColon

lemma inlineCommentWarning_ne (n : Nat) :
    inlineCommentWarning n ≠ Editor.unclosedCommentWarning := by
  have hinline : (inlineCommentWarning n).toList.head? = some 'I' := by
    unfold inlineCommentWarning
    simp only [String.toList_append, List.head?_append]
    rfl
  have hunclosed : Editor.unclosedCommentWarning.toList.head? = some 'U' := rfl
  intro h
  rw [h, hunclosed] at hinline
  simp at hinline

lemma warnings_eq {source : String} (h : Undisputed source.toList) :
    ((Editor.warnings source.toList).map (·.message)).filter (· != Editor.unclosedCommentWarning) =
      sourceWarnings source := by
  have hkept : ((cutLines (readSource source)).map inlineCommentWarning).filter
      (· != Editor.unclosedCommentWarning) =
        (cutLines (readSource source)).map inlineCommentWarning := by
    rw [List.filter_eq_self]
    intro w hw
    obtain ⟨n, -, rfl⟩ := List.mem_map.mp hw
    simpa using inlineCommentWarning_ne n
  unfold Editor.warnings sourceWarnings
  rw [cutLines_readings h, List.map_append, List.filter_append, List.map_map]
  split_ifs
  · exact (congrArg (· ++ _) hkept).trans (by simp)
  · exact (congrArg (· ++ _) hkept).trans (by simp)

lemma errors_eq {source : String} (h : Undisputed source.toList) :
    errorsOf (Editor.analyze source.toList).diagnostics =
      (tokenize source).filterMap fun x => x.1.refusal?.map (·, x.2) := by
  rw [errorsOf_analyze, errorsOf_blockReports, ← tokens_eq_tokenize h, List.filterMap_map]
  refine List.filterMap_congr fun t ht => ?_
  have hmem : (t.token, t.line) ∈ tokenize source := by
    rw [← tokens_eq_tokenize h]
    exact List.mem_map.mpr ⟨t, ht, rfl⟩
  have hstate := state_of_mem_tokenize hmem
  rw [Function.comp_apply, errorOf?]
  rcases hs : t.token.statement with e | s
  · simp only [Token.refusal?_of_error hs, refusalText_eq hstate hs, Option.map_some]
  · simp only [Token.refusal?_of_ok hs, Option.map_none]

lemma program_eq {source : String} (h : Undisputed source.toList) :
    (Editor.analyze source.toList).program.map Placed.statement =
      (Program.ofFlagged (leaves ((tokenize source).map Prod.fst))).map Statement.dropColon := by
  have htokens : (Editor.tokens source.toList).map (·.token) = (tokenize source).map Prod.fst := by
    rw [← tokens_eq_tokenize h, List.map_map]
    rfl
  unfold Editor.analyze
  simp only [program_gathered, Program.map_ofFlagged, placedLeaves_eq, htokens]

/-- The first error of the editor is the compiler's refusal. -/
lemma head?_errors {source : String} (h : Undisputed source.toList) :
    (errorsOf (Editor.analyze source.toList).diagnostics).head?.map Prod.fst =
      match parse source with
      | .ok _ => none
      | .error e => some e.message := by
  have hmessages : (errorsOf (Editor.analyze source.toList).diagnostics).map Prod.fst =
      ((tokenize source).map Prod.fst).filterMap Token.refusal? := by
    rw [errors_eq h, List.map_filterMap, List.filterMap_map]
    refine List.filterMap_congr fun x _ => ?_
    rw [Option.map_map, Function.comp_apply]
    exact Option.map_id'
  rw [← List.head?_map, hmessages, head?_refusals]
  rfl

/-- **The readers agree** on every text without disputed characters. -/
theorem agreement_of_undisputed (source : String) (h : Undisputed source.toList) :
    Agreement source := by
  have hfirst := head?_errors h
  refine ⟨tokens_eq_tokenize h, warnings_eq h, errors_eq h, ?_, ?_, _,
    parseTokens_accepted _, program_eq h⟩
  · rcases hp : parse source with e | p
    · rw [hp] at hfirst
      constructor
      · intro hnil
        rw [hnil] at hfirst
        simp at hfirst
      · rintro ⟨p, hp⟩
        cases hp
    · rw [hp] at hfirst
      exact ⟨fun _ => ⟨p, rfl⟩, fun _ => by simpa using hfirst⟩
  · intro e he
    rw [hfirst, he]

/-- Two segments, two lines that are refused, a comment, and both ways to end a line. -/
def mixedSource : String := "> 印 左数:\r\nfoo 1 # note\r\n若 x:\n> a ->\n> 空\n终\n"

theorem mixedSource_agreement :
    Undisputed mixedSource.toList ∧ Agreement mixedSource ∧
      errorsOf (Editor.analyze mixedSource.toList).diagnostics =
        [("Unknown action: foo", 2), ("Arrow missing target", 4)] := by
  have h : Undisputed mixedSource.toList := by decide +kernel
  have ha := agreement_of_undisputed mixedSource h
  refine ⟨h, ha, ?_⟩
  rw [ha.errors]
  decide +kernel

end Flowline
