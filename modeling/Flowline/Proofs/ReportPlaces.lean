import Flowline.Editor.Refactor
import Flowline.Editor.Watch
import Flowline.Proofs.BlockBalance
import Flowline.Proofs.References

/-!
Where reports are placed.

A report belongs to a line on which something was read, or to the last line. Only an unknown action
has columns, and they are counted in what was read of the line: without the blanks at its beginning
and from the first place at which the word occurs. So every report fits into its line; but an
unknown action is underlined where it stands only if its line is not indented and the word is not
the mark of the line once more.
-/

namespace Flowline

open Text

namespace Editor

/-! ### The column of a word -/

section

variable {word skipped after : List Char}

lemma indexOf?_of_first (first : First word skipped after) :
    indexOf? word (skipped ++ word ++ after) = some skipped.length := by
  induction skipped with
  | nil =>
    rcases htext : word ++ after with _ | ⟨c, cs⟩
    · obtain ⟨rfl, rfl⟩ := List.append_eq_nil_iff.mp htext
      rfl
    · have hprefix : word.isPrefixOf (c :: cs) = true :=
        List.isPrefixOf_iff_prefix.mpr ⟨after, htext⟩
      rw [List.nil_append, htext, indexOf?, if_pos hprefix]
      rfl
  | cons c skipped ih =>
    have hprefix : ¬ word.isPrefixOf (c :: (skipped ++ word ++ after)) = true := by
      intro h
      obtain ⟨t, ht⟩ := List.isPrefixOf_iff_prefix.mp h
      exact absurd (first [] t ht.symm) (by simp)
    have hfirst : First word skipped after := by
      intro s t hst
      have := first (c :: s) t (by simpa using hst)
      simpa using this
    rw [List.cons_append, List.cons_append, indexOf?, if_neg hprefix, ih hfirst]
    rfl

lemma columnOf_of_first (first : First word skipped after) :
    columnOf word (skipped ++ word ++ after) = units skipped := by
  simp only [columnOf, indexOf?_of_first first]
  rw [List.append_assoc, List.take_left]

end

/-! ### The action word of a line -/

/-- The parts of a line up to its action word and after it: the blanks at its beginning, then, if the
line has a mark, the mark and more blanks, then the word, which ends at a blank, at a comment or with
the line. -/
structure ActionLine (line indent lead word after : List Char) : Prop where
  split : line = indent ++ lead ++ word ++ after
  indent : ∀ c ∈ indent, isEditorBlank c = true
  lead : (lead = [] ∧ isLineState (String.ofList word) = false) ∨
    ∃ mark gap, lead = mark ++ gap ∧ isLineState (String.ofList mark) = true ∧ gap ≠ [] ∧
      ∀ c ∈ gap, isEditorBlank c = true
  ne_nil : word ≠ []
  chars : ∀ c ∈ word, isEditorBlank c = false ∧ c ≠ '#'
  right : ∀ c ∈ after.head?, isEditorBlank c = true ∨ c = '#'

lemma eq_singleton_of_isLineState {mark : List Char}
    (h : isLineState (String.ofList mark) = true) : ∃ m, mark = [m] := by
  have hmem : String.ofList mark ∈ ["~", ">", "<", "!", "?"] := by
    simpa [isLineState, lineStates] using h
  have hmark : ∀ s ∈ ["~", ">", "<", "!", "?"], ∃ m, s.toList = [m] := by
    simp only [List.forall_mem_cons]
    exact ⟨⟨'~', rfl⟩, ⟨'>', rfl⟩, ⟨'<', rfl⟩, ⟨'!', rfl⟩, ⟨'?', rfl⟩, by simp⟩
  obtain ⟨m, hm⟩ := hmark _ hmem
  exact ⟨m, by simpa using hm⟩

/-- What begins a text is what begins its first part, or its second if the first is empty. -/
lemma forall_head?_append {p : Char → Prop} {xs ys : List Char} (hxs : ∀ c ∈ xs.head?, p c)
    (hys : ∀ c ∈ ys.head?, p c) : ∀ c ∈ (xs ++ ys).head?, p c := by
  cases xs with
  | nil => exact hys
  | cons x xs => exact hxs

section

variable {line indent lead word after : List Char}

lemma column_le {col : Nat} (hcol : col = if word <+: lead then 0 else units lead) :
    col ≤ units lead := by
  rw [hcol]
  split_ifs <;> omega

/-- Before its own place the word stands only as the mark of the line. -/
lemma ActionLine.eq_of_earlier (h : ActionLine line indent lead word after) {s t : List Char}
    (hst : line = s ++ word ++ t) (hlt : s.length < (indent ++ lead).length) :
    s = indent ∧ word <+: lead := by
  obtain ⟨c, cs, rfl⟩ := List.exists_cons_of_ne_nil h.ne_nil
  have hc : isEditorBlank c = false := (h.chars c List.mem_cons_self).1
  have hsplit : s ++ (c :: cs ++ t) = (indent ++ lead) ++ (c :: cs ++ after) := by
    rw [← List.append_assoc, ← List.append_assoc, ← hst, h.split]
  -- the word begins inside what stands before its place
  obtain ⟨more, hmore⟩ : ∃ more, indent ++ lead = s ++ c :: more := by
    rcases List.append_eq_append_iff.mp hsplit with ⟨more, hs, hrest⟩ | ⟨more, hs, -⟩
    · cases more with
      | nil => simp [hs] at hlt
      | cons m more =>
        obtain ⟨rfl, -⟩ := List.cons.inj hrest
        exact ⟨more, hs⟩
    · rw [hs, List.length_append] at hlt
      omega
  obtain ⟨begun, rfl⟩ : ∃ begun, s = indent ++ begun := by
    rcases List.append_eq_append_iff.mp hmore with ⟨begun, hs, -⟩ | ⟨rest, hs, hrest⟩
    · exact ⟨begun, hs⟩
    · cases rest with
      | nil => exact ⟨[], by simpa using hs.symm⟩
      | cons x rest =>
        obtain ⟨rfl, -⟩ := List.cons.inj hrest
        have hblank := h.indent c (by simp [hs])
        rw [hc] at hblank
        cases hblank
  rw [List.append_assoc, List.append_cancel_left_eq] at hmore
  rcases h.lead with ⟨rfl, -⟩ | ⟨mark, gap, rfl, hmark, hne, hgap⟩
  · simp at hmore
  · obtain ⟨m, rfl⟩ := eq_singleton_of_isLineState hmark
    cases begun with
    | nil =>
      obtain ⟨rfl, rfl⟩ := List.cons.inj hmore
      refine ⟨List.append_nil indent, ?_⟩
      -- a blank follows the mark, so the word ends there
      obtain ⟨b, gap, rfl⟩ := List.exists_cons_of_ne_nil hne
      simp only [List.append_nil, List.append_assoc, List.append_cancel_left_eq] at hsplit
      cases cs with
      | nil => exact ⟨b :: gap, rfl⟩
      | cons x cs =>
        obtain ⟨-, hrest⟩ := List.cons.inj hsplit
        obtain ⟨rfl, -⟩ := List.cons.inj hrest
        have hx := (h.chars x (by simp)).1
        rw [hgap x List.mem_cons_self] at hx
        cases hx
    | cons x begun =>
      obtain ⟨-, rfl⟩ := List.cons.inj hmore
      have hblank := hgap c (by simp)
      rw [hc] at hblank
      cases hblank

/-- The column of the word in a line without blanks at its beginning. -/
lemma ActionLine.columnOf_eq (h : ActionLine line [] lead word after) :
    columnOf word line = if word <+: lead then 0 else units lead := by
  rw [h.split, List.nil_append]
  split_ifs with hprefix
  · obtain ⟨more, rfl⟩ := hprefix
    have first : First word [] (more ++ word ++ after) := fun s t _ => Nat.zero_le _
    have hcolumn := columnOf_of_first first
    simpa using hcolumn
  · refine columnOf_of_first fun s t hst => ?_
    by_contra hlt
    have hearlier := h.eq_of_earlier (h.split.trans hst) (by simpa using hlt)
    exact hprefix hearlier.2

/-- Blanks before the line, and a blank or a comment after it. -/
lemma ActionLine.widen (h : ActionLine line [] lead word after) {bs rest : List Char}
    (hbs : ∀ c ∈ bs, isEditorBlank c = true)
    (hrest : ∀ c ∈ rest.head?, isEditorBlank c = true ∨ c = '#') :
    ActionLine (bs ++ line ++ rest) bs lead word (after ++ rest) where
  split := by
    rw [h.split]
    simp
  indent := hbs
  lead := h.lead
  ne_nil := h.ne_nil
  chars := h.chars
  right := forall_head?_append h.right hrest

/-- The token of a line is made of the action word and what follows it. -/
lemma actionLine_of_ofLine {t : Token} (h : Token.ofLine isEditorBlank line = some t)
    (hhash : '#' ∉ line) (hhead : ∀ c ∈ line.head?, isEditorBlank c = false) :
    ∃ lead after, ActionLine line [] lead t.action.toList after := by
  rw [Token.ofLine_of_notMem hhash] at h
  have hchars : ∀ {w : List Char}, (∀ c ∈ w, isEditorBlank c = false) → (∀ c ∈ w, c ∈ line) →
      ∀ c ∈ w, isEditorBlank c = false ∧ c ≠ '#' := by
    intro w hw hmem c hc
    refine ⟨hw c hc, ?_⟩
    rintro rfl
    exact hhash (hmem _ hc)
  rcases hwords : words isEditorBlank line with _ | ⟨w, ws⟩
  · rw [hwords] at h
    cases h
  obtain ⟨bs, rest, hline, hbs, hne, hw, hrest, hws⟩ := split_of_words_eq_cons hwords
  have hnil : bs = [] := by
    cases bs with
    | nil => rfl
    | cons b bs =>
      have hb := hhead b (by simp [hline])
      rw [hbs b List.mem_cons_self] at hb
      cases hb
  subst hnil
  rw [hwords, List.map_cons] at h
  simp only [Token.ofWords] at h
  split_ifs at h with hmark
  · -- the first word is a mark, and the action is the second
    rcases ws with _ | ⟨v, vs⟩
    · cases h
    obtain ⟨gap, rest', rfl, hgap, hne', hv, hrest', -⟩ := split_of_words_eq_cons hws
    have hgapne : gap ≠ [] := by
      rintro rfl
      obtain ⟨c, cs, rfl⟩ := List.exists_cons_of_ne_nil hne'
      have hblank := hrest c (by simp)
      rw [hv c List.mem_cons_self] at hblank
      cases hblank
    obtain rfl := Option.some.inj h
    refine ⟨w ++ gap, rest', ?_⟩
    rw [String.toList_ofList]
    exact
      { split := by simp [hline]
        indent := by simp
        lead := .inr ⟨w, gap, rfl, hmark, hgapne, hgap⟩
        ne_nil := hne'
        chars := hchars hv fun c hc => by simp [hline, hc]
        right := fun c hc => .inl (hrest' c hc) }
  · obtain rfl := Option.some.inj h
    refine ⟨[], rest, ?_⟩
    rw [String.toList_ofList]
    exact
      { split := by simp [hline]
        indent := by simp
        lead := .inl ⟨rfl, by simpa using hmark⟩
        ne_nil := hne
        chars := hchars hw fun c hc => by simp [hline, hc]
        right := fun c hc => .inl (hrest c hc) }

end

/-! ### What is read of a line -/

/-- A line is cut after the blanks at its beginning, and before those at its end. -/
lemma split_trim (line : List Char) :
    ∃ bs, line = indentation line ++ trim isEditorBlank line ++ bs ∧
      ∀ b ∈ bs, isEditorBlank b = true := by
  obtain ⟨bs, hbs, hstart⟩ := trimEnd_append_blank isEditorBlank (trimStart isEditorBlank line)
  refine ⟨bs, ?_, hbs⟩
  rw [List.append_assoc, trim, ← hstart]
  exact List.takeWhile_append_dropWhile.symm

/-- What stands before a comment is cut off, and then the blanks at its end. -/
lemma split_beforeHash {text : List Char} (h : '#' ∈ text) :
    ∃ rest, text = trimEnd isEditorBlank (beforeHash text) ++ rest ∧
      ∀ c ∈ rest.head?, isEditorBlank c = true ∨ c = '#' := by
  obtain ⟨bs, hbs, hbefore⟩ := trimEnd_append_blank isEditorBlank (beforeHash text)
  obtain ⟨comment, htext⟩ := beforeHash_append_hash h
  refine ⟨bs ++ '#' :: comment, ?_, forall_head?_append (fun c hc => ?_) fun c hc => ?_⟩
  · rw [← List.append_assoc, ← hbefore, ← htext]
  · exact .inl (hbs c (List.mem_of_mem_head? hc))
  · exact .inr (Option.some.inj hc).symm

/-- What is read of a line: nothing, what stands before a comment, or the whole line without the blanks
around it, which then has no hash or begins with one. -/
lemma readLine_text_cases (b : Bool) (line : List Char) :
    (readLine isEditorBlank b line).2.text = [] ∨
      ('#' ∈ trim isEditorBlank line ∧ (readLine isEditorBlank b line).2.text =
        trimEnd isEditorBlank (beforeHash (trim isEditorBlank line))) ∨
      (('#' ∈ trim isEditorBlank line → (trim isEditorBlank line).head? = some '#') ∧
        (readLine isEditorBlank b line).2.text = trim isEditorBlank line) := by
  unfold readLine
  dsimp only
  split_ifs with hfence hcomment hhash
  · exact .inl rfl
  · exact .inl rfl
  · simp only [Bool.and_eq_true, List.contains_eq_mem, decide_eq_true_eq] at hhash
    exact .inr (.inl ⟨hhash.1, rfl⟩)
  · exact .inr (.inr ⟨fun hm => by simpa [hm] using hhash, rfl⟩)

/-- Where a line gives a token, what is read of it stands after the blanks at its beginning and before
more blanks or a comment. -/
lemma readLine_text {b : Bool} {line text : List Char} {t : Token}
    (htext : (readLine isEditorBlank b line).2.text = text)
    (h : Token.ofLine isEditorBlank text = some t) :
    '#' ∉ text ∧ (∀ c ∈ text.head?, isEditorBlank c = false) ∧
      ∃ rest, line = indentation line ++ text ++ rest ∧
        ∀ c ∈ rest.head?, isEditorBlank c = true ∨ c = '#' := by
  obtain ⟨bs, hline, hbs⟩ := split_trim line
  have hblank : ∀ c ∈ (trim isEditorBlank line).head?, isEditorBlank c = false := by
    intro c hc
    obtain ⟨cs, hcs⟩ := List.head?_eq_some_iff.mp hc
    exact not_blank_of_trim hcs
  rcases readLine_text_cases b line with hread | ⟨hhash, hread⟩ | ⟨hhash, hread⟩
  · obtain rfl := htext.symm.trans hread
    cases h
  · obtain rfl := htext.symm.trans hread
    obtain ⟨rest, hcut, hrest⟩ := split_beforeHash hhash
    refine ⟨fun hm => notMem_beforeHash _ (mem_of_mem_trimEnd hm), fun c hc => hblank c ?_,
      rest ++ bs, ?_, forall_head?_append hrest fun c hc => ?_⟩
    · rw [hcut, List.head?_append, Option.mem_def.mp hc]
      rfl
    · calc line = indentation line ++ trim isEditorBlank line ++ bs := hline
        _ = indentation line ++
            (trimEnd isEditorBlank (beforeHash (trim isEditorBlank line)) ++ rest) ++ bs :=
          congrArg (indentation line ++ · ++ bs) hcut
        _ = indentation line ++ trimEnd isEditorBlank (beforeHash (trim isEditorBlank line)) ++
            (rest ++ bs) := by simp only [List.append_assoc]
    · exact .inl (hbs c (List.mem_of_mem_head? hc))
  · obtain rfl := htext.symm.trans hread
    refine ⟨fun hm => ?_, hblank, bs, hline, fun c hc => .inl (hbs c (List.mem_of_mem_head? hc))⟩
    -- a line that begins with a hash gives no token
    rw [Token.ofLine_of_hash (by decide) (hhash hm)] at h
    cases h

/-- A token stands on a line of its source, in the column that its action word has without the blanks
at the beginning of the line, or in the first one. -/
lemma actionLine_of_mem_tokens {source : List Char} {t : PlacedToken} (h : t ∈ tokens source) :
    ∃ n line lead after, (editorLines source)[n]? = some line ∧ t.line = n + 1 ∧
      ActionLine line (indentation line) lead t.token.action.toList after ∧
      t.column = if t.token.action.toList <+: lead then 0 else units lead := by
  obtain ⟨⟨r, m⟩, hr, ht⟩ := List.mem_filterMap.mp h
  obtain ⟨hm, hget⟩ := List.mk_mem_zipIdx_iff_le_and_getElem?_sub.mp hr
  have hread := getElem?_readLines isEditorBlank false (editorLines source) (m - 1)
  obtain ⟨line, hline, rfl⟩ := Option.map_eq_some_iff.mp (hread.symm.trans hget)
  obtain ⟨token, htoken, rfl⟩ := Option.map_eq_some_iff.mp ht
  obtain ⟨hhash, hhead, rest, hsplit, hrest⟩ := readLine_text rfl htoken
  obtain ⟨lead, after, haction⟩ := actionLine_of_ofLine htoken hhash hhead
  have hindent : ∀ c ∈ indentation line, isEditorBlank c = true := fun c hc =>
    List.mem_takeWhile_imp hc
  have hwide := haction.widen hindent hrest
  rw [← hsplit] at hwide
  exact ⟨m - 1, line, lead, after ++ rest, hline, by simp; omega, hwide, haction.columnOf_eq⟩

/-- The word is found in its column exactly if no blanks stand at the beginning of the line: they are
left out when the column is counted. -/
lemma ActionLine.found_iff {line indent lead word after : List Char} {col : Nat}
    (h : ActionLine line indent lead word after)
    (hcol : col = if word <+: lead then 0 else units lead) :
    takeUnits (units word) (dropUnits col line) = word ↔ indent = [] := by
  constructor
  · intro hword
    by_contra hne
    have hpos := units_pos hne
    have hle := column_le hcol
    have hst : line = takeUnits col line ++ word ++ dropUnits (units word) (dropUnits col line) := by
      conv_lhs => rw [← takeUnits_append_dropUnits col line,
        ← takeUnits_append_dropUnits (units word) (dropUnits col line), hword]
      rw [List.append_assoc]
    have hlt : (takeUnits col line).length < (indent ++ lead).length := by
      by_contra hge
      have hbefore : indent ++ lead <+: line := ⟨word ++ after, by rw [h.split]; simp⟩
      have htaken : takeUnits col line <+: line := ⟨_, takeUnits_append_dropUnits col line⟩
      obtain ⟨more, hmore⟩ := List.prefix_of_prefix_length_le hbefore htaken (by omega)
      have hunits := congrArg units hmore
      have := units_takeUnits_le col line
      simp only [units_append] at hunits
      omega
    -- found earlier the word is the mark, and then it is looked for in the first column
    obtain ⟨hindent, hprefix⟩ := h.eq_of_earlier hst hlt
    rw [hcol, if_pos hprefix, takeUnits_zero] at hindent
    exact hne hindent.symm
  · rintro rfl
    rw [h.split, List.nil_append, hcol]
    split_ifs with hprefix
    · obtain ⟨more, rfl⟩ := hprefix
      rw [dropUnits_zero, List.append_assoc, List.append_assoc, takeUnits_units_append]
    · rw [List.append_assoc, dropUnits_units_append, takeUnits_units_append]

/-! ### Why something is reported -/

/-- The reasons for a report: a comment that was left out, a comment that is not closed, a token that
is no statement, a block end too many, blocks that are not closed. -/
inductive Arises (source : List Char) : Diagnostic → Prop
  | cutComment {n : Nat} (h : n ∈ cutLines (readings source)) :
      Arises source (.ofWarning ⟨inlineCommentWarning n, n⟩)
  | openComment : Arises source (.ofWarning ⟨unclosedCommentWarning, (editorLines source).length⟩)
  | refused {t : PlacedToken} {e : ParseError} (ht : t ∈ tokens source)
      (he : statementOf t.token = .error e) : Arises source (errorAt t e)
  | surplusEnd {t : PlacedToken} (ht : t ∈ tokens source) :
      Arises source ⟨unexpectedEnd t.token.action, t.line, .warning, none⟩
  | openBlocks {t : PlacedToken} (ht : t ∈ tokens source) (n : Nat) :
      Arises source ⟨unclosedBlocks n, t.line, .warning, none⟩

lemma arises_of_mem_blockStep {source : List Char} {depth : Nat} {t : PlacedToken} {x : Diagnostic}
    (ht : t ∈ tokens source) (h : x ∈ (blockStep depth t).2) : Arises source x := by
  unfold blockStep at h
  split at h
  · next e he =>
    obtain rfl := List.mem_singleton.mp h
    exact .refused ht he
  · split_ifs at h
    · obtain rfl := List.mem_singleton.mp h
      exact .surplusEnd ht
    · cases h
  · cases h

lemma arises_of_mem_blockReports {source : List Char} {depth : Nat} {ts : List PlacedToken}
    {x : Diagnostic} (hts : ∀ t ∈ ts, t ∈ tokens source) (h : x ∈ blockReports depth ts) :
    Arises source x := by
  induction ts generalizing depth with
  | nil => cases h
  | cons t ts ih =>
    rw [List.forall_mem_cons] at hts
    rcases List.mem_append.mp h with h | h
    · exact arises_of_mem_blockStep hts.1 h
    · exact ih hts.2 h

lemma arises_of_mem_diagnostics {source : List Char} {x : Diagnostic}
    (h : x ∈ (analyze source).diagnostics) : Arises source x := by
  rcases List.mem_append.mp h with h | h
  · rcases List.mem_append.mp h with h | h
    · obtain ⟨w, hw, rfl⟩ := List.mem_map.mp h
      rcases List.mem_append.mp hw with hw | hw
      · obtain ⟨n, hn, rfl⟩ := List.mem_map.mp hw
        exact .cutComment hn
      · split_ifs at hw
        · obtain rfl := List.mem_singleton.mp hw
          exact .openComment
        · cases hw
    · exact arises_of_mem_blockReports (fun _ ht => ht) h
  · unfold unclosedReport at h
    split_ifs at h with hopen
    · cases h
    · -- a block is open, so there is a token that opened it
      obtain rfl := List.mem_singleton.mp h
      rcases hlast : (tokens source).getLast? with _ | t
      · rw [List.getLast?_eq_none_iff.mp hlast] at hopen
        exact absurd rfl hopen
      · rw [Option.map_some, Option.getD_some]
        exact .openBlocks (List.mem_of_getLast? hlast) _

lemma eq_action_of_statementOf {t : Token} {word : String}
    (h : statementOf t = .error (.unknownAction word)) : t.action = word := by
  unfold statementOf at h
  split_ifs at h
  · cases h
  · split at h
    · split at h <;> cases h
    · split at h <;> cases h
    · split at h
      · cases h
      · cases h
        rfl

/-- A report of an unknown action comes from a token with that action. -/
lemma Arises.exists_of_message {source : List Char} {x : Diagnostic} {word : String}
    (h : Arises source x) (hmessage : x.message = "Unknown action: " ++ word) :
    ∃ t ∈ tokens source, t.token.action = word ∧ x = errorAt t (.unknownAction word) := by
  -- the kind of a report is known by the beginning of its message
  have hopening : opening x.message = "Unknown action:".toList := by
    rw [hmessage, opening_append (by decide)]
    decide
  cases h with
  | cutComment =>
    rw [Diagnostic.ofWarning, opening_inlineCommentWarning] at hopening
    exact absurd hopening (by decide)
  | openComment =>
    have hother : opening unclosedCommentWarning ≠ "Unknown action:".toList := by decide
    exact absurd hopening hother
  | surplusEnd =>
    rw [opening_unexpectedEnd] at hopening
    exact absurd hopening (by decide)
  | openBlocks =>
    rw [opening_unclosedBlocks] at hopening
    exact absurd hopening (by decide)
  | @refused t e ht he =>
    cases e with
    | badState state =>
      have hstate : opening (errorAt t (.badState state)).message = opening "Invalid line state: " :=
        opening_append (by decide) state
      rw [hstate] at hopening
      exact absurd hopening (by decide)
    | danglingArrow =>
      have hother : opening ParseError.danglingArrow.message ≠ "Unknown action:".toList := by decide
      exact absurd hopening hother
    | unknownAction other =>
      have hword : "Unknown action: " ++ other = "Unknown action: " ++ word := hmessage
      have hlist := congrArg String.toList hword
      rw [String.toList_append, String.toList_append, List.append_cancel_left_eq,
        String.toList_inj] at hlist
      subst hlist
      exact ⟨t, ht, eq_action_of_statementOf he, rfl⟩

/-! ### Reports fit -/

namespace Document

/-- The range lies on one line of the document, and within that line. -/
structure Fits (d : Document) (r : Range) : Prop where
  stop_line : r.stop.line = r.start.line
  line_lt : r.start.line < d.lines.length
  column_le : r.start.column ≤ r.stop.column
  stop_le : r.stop.column ≤ units (d.lineD r.start.line)

/-- The report of a diagnostic as the editor makes it: the line whose text is asked for has to exist. -/
def checkedReport (d : Document) (x : Diagnostic) : Except EditorFault Report := do
  let line := x.line - 1
  let text ← d.line (min line (d.lines.length - 1))
  let columns := x.columns.getD (0, units text)
  return ⟨.between ⟨line, columns.1⟩ ⟨line, columns.2⟩, x.message, x.severity⟩

variable {d : Document}

lemma line_of_lt {n : Nat} (hn : n < d.lines.length) : d.line n = .ok (d.lineD n) := by
  simp [line, lineD, hn]

/-- In a document that has a line, the line that is asked for exists. -/
lemma checkedReport_eq (hne : d.lines ≠ []) (x : Diagnostic) :
    d.checkedReport x = .ok (d.report x) := by
  have hpos := List.length_pos_iff.mpr hne
  unfold checkedReport
  dsimp only
  rw [line_of_lt (by omega)]
  rfl

lemma mapM_checkedReport (hne : d.lines ≠ []) (xs : List Diagnostic) :
    xs.mapM d.checkedReport = .ok (xs.map d.report) := by
  have hchecked : d.checkedReport = fun x => pure (d.report x) := funext (checkedReport_eq hne)
  rw [hchecked, List.mapM_pure]
  rfl

lemma between_of_le {n a b : Nat} (h : a ≤ b) :
    Range.between ⟨n, a⟩ ⟨n, b⟩ = ⟨⟨n, a⟩, ⟨n, b⟩⟩ := by
  have hle : Position.le ⟨n, a⟩ ⟨n, b⟩ = true := by simp [Position.le, h]
  rw [Range.between, if_pos hle]

/-- Where a report without columns is placed: its whole line. -/
lemma fits_report_of_none {x : Diagnostic} (hx : x.columns = none) (hpos : 1 ≤ x.line)
    (hle : x.line ≤ d.lines.length) : d.Fits (d.report x).range := by
  have hmin : min (x.line - 1) (d.lines.length - 1) = x.line - 1 := by omega
  have hrange : (d.report x).range =
      ⟨⟨x.line - 1, 0⟩, ⟨x.line - 1, units (d.lineD (x.line - 1))⟩⟩ := by
    simp only [report, hx, hmin, Option.getD_none, between_of_le (Nat.zero_le _)]
  rw [hrange]
  exact ⟨rfl, by simp only; omega, Nat.zero_le _, Nat.le_refl _⟩

/-- Where the report of a token with an unknown action is placed. -/
lemma range_report_errorAt (t : PlacedToken) (word : String) :
    (d.report (errorAt t (.unknownAction word))).range =
      rangeAt t.token.action.toList (t.line - 1) t.column :=
  between_of_le (Nat.le_add_right ..)

lemma exists_actionLine (hd : d.Sound) {t : PlacedToken} (ht : t ∈ tokens d.text) :
    ∃ lead after, t.line - 1 < d.lines.length ∧ 1 ≤ t.line ∧
      ActionLine (d.lineD (t.line - 1)) (indentation (d.lineD (t.line - 1))) lead
        t.token.action.toList after ∧
      t.column = if t.token.action.toList <+: lead then 0 else units lead := by
  obtain ⟨n, line, lead, after, hline, hnumber, haction, hcolumn⟩ := actionLine_of_mem_tokens ht
  rw [editorLines_text hd] at hline
  have hn : n < d.lines.length := (List.getElem?_eq_some_iff.mp hline).1
  have hnth : d.lineD (t.line - 1) = line := by
    rw [hnumber, Nat.add_sub_cancel, lineD, hline]
    rfl
  rw [hnth]
  exact ⟨lead, after, by omega, by omega, haction, hcolumn⟩

lemma fits_of_arises (hd : d.Sound) {x : Diagnostic} (h : Arises d.text x) :
    d.Fits (d.report x).range := by
  have hpos := List.length_pos_iff.mpr hd.nonempty
  cases h with
  | @cutComment n hn =>
    obtain ⟨⟨r, m⟩, hr, hcut⟩ := List.mem_filterMap.mp hn
    obtain ⟨hm, hget⟩ := List.mk_mem_zipIdx_iff_le_and_getElem?_sub.mp hr
    have hlt := (List.getElem?_eq_some_iff.mp hget).1
    rw [readings, length_readLines, editorLines_text hd] at hlt
    dsimp only at hcut
    split_ifs at hcut
    obtain rfl := Option.some.inj hcut
    exact fits_report_of_none rfl hm (by simp only [Diagnostic.ofWarning]; omega)
  | openComment =>
    rw [editorLines_text hd]
    exact fits_report_of_none rfl hpos (Nat.le_refl _)
  | @refused t e ht he =>
    obtain ⟨lead, after, hlt, hone, haction, hcolumn⟩ := exists_actionLine hd ht
    cases e with
    | badState state => exact fits_report_of_none rfl hone (by simp only [errorAt]; omega)
    | danglingArrow => exact fits_report_of_none rfl hone (by simp only [errorAt]; omega)
    | unknownAction word =>
      have hunits := congrArg units haction.split
      simp only [units_append] at hunits
      rw [range_report_errorAt]
      refine ⟨rfl, hlt, Nat.le_add_right .., ?_⟩
      have hle := column_le hcolumn
      simp only [rangeAt]
      omega
  | @surplusEnd t ht =>
    obtain ⟨lead, after, hlt, hone, -, -⟩ := exists_actionLine hd ht
    exact fits_report_of_none rfl hone (by simp only; omega)
  | @openBlocks t ht n =>
    obtain ⟨lead, after, hlt, hone, -, -⟩ := exists_actionLine hd ht
    exact fits_report_of_none rfl hone (by simp only; omega)

/-- **Reports fit their document.** Looking at a document asks for no line that does not exist, and
each of the reports that are published lies on one line of the document, within that line. -/
theorem reports_fit (text : String) :
    ∃ reports, (ofText text).analysis.diagnostics.mapM (ofText text).checkedReport = .ok reports ∧
      (ofText text).look true = [.publish reports] ∧
      ∀ x ∈ reports, (ofText text).Fits x.range := by
  have hd := ofText_sound text
  refine ⟨(ofText text).reports, mapM_checkedReport hd.nonempty _, rfl, fun x hx => ?_⟩
  obtain ⟨y, hy, rfl⟩ := List.mem_map.mp hx
  exact fits_of_arises hd (arises_of_mem_diagnostics hy)

/-! ### Unknown actions are underlined -/

/-- **Unknown actions are underlined** in their line as it is without the blanks at its beginning, where
the word first occurs. So what is underlined is the word if and only if the line is not indented, and
it begins at the action word if and only if, besides, the word is not the mark of the line. -/
theorem unknownAction_underlined_iff (text : String) {x : Report} {word : String}
    (hx : x ∈ (ofText text).reports) (hmessage : x.message = "Unknown action: " ++ word) :
    ∃ n line lead after, (ofText text).lines[n]? = some line ∧
      ActionLine line (indentation line) lead word.toList after ∧
      x.range = rangeAt word.toList n (if word.toList <+: lead then 0 else units lead) ∧
      ((ofText text).slice x.range = word.toList ↔ indentation line = []) ∧
      (x.range.start = ⟨n, units (indentation line ++ lead)⟩ ↔
        indentation line = [] ∧ ¬ word.toList <+: lead) := by
  have hd := ofText_sound text
  obtain ⟨y, hy, rfl⟩ := List.mem_map.mp hx
  obtain ⟨t, ht, hword, rfl⟩ := (arises_of_mem_diagnostics hy).exists_of_message hmessage
  obtain ⟨lead, after, hlt, -, haction, hcolumn⟩ := exists_actionLine hd ht
  rw [hword] at haction hcolumn
  have hline : (ofText text).lines[t.line - 1]? = some ((ofText text).lineD (t.line - 1)) := by
    rw [lineD_of_lt hlt, List.getElem?_eq_getElem hlt]
  have hrange : ((ofText text).report (errorAt t (.unknownAction word))).range =
      rangeAt word.toList (t.line - 1) t.column := by
    rw [range_report_errorAt, hword]
  have hfits := fits_of_arises hd (arises_of_mem_diagnostics hy)
  rw [hrange] at hfits ⊢
  refine ⟨t.line - 1, _, lead, after, hline, haction, by rw [hcolumn], ?_, ?_⟩
  · rw [slice_rangeAt hlt hfits.stop_le]
    exact haction.found_iff hcolumn
  · have hpos := units_pos haction.ne_nil
    have hstart : (rangeAt word.toList (t.line - 1) t.column).start = ⟨t.line - 1, t.column⟩ := rfl
    rw [hstart, Position.mk.injEq, units_append, hcolumn]
    split_ifs with hprefix
    · refine iff_of_false (fun heq => ?_) fun hboth => hboth.2 hprefix
      obtain ⟨more, rfl⟩ := hprefix
      rw [units_append] at heq
      omega
    · constructor
      · rintro ⟨-, heq⟩
        refine ⟨?_, hprefix⟩
        by_contra hne
        have := units_pos hne
        omega
      · rintro ⟨hindent, -⟩
        rw [hindent, units_nil]
        exact ⟨rfl, by omega⟩

/-- Unknown actions on a marked line with a comment, on an indented line, and on a line that is marked
twice. -/
def misspelled : String := "> foo 1#note\n若 真:\n    bar\n终\n? ?"

theorem misspelled_underlined :
    ⟨⟨⟨0, 2⟩, ⟨0, 5⟩⟩, "Unknown action: foo", .error⟩ ∈ (ofText misspelled).reports ∧
      (ofText misspelled).slice ⟨⟨0, 2⟩, ⟨0, 5⟩⟩ = "foo".toList := by
  have hx : ⟨⟨⟨0, 2⟩, ⟨0, 5⟩⟩, "Unknown action: foo", .error⟩ ∈ (ofText misspelled).reports := by
    decide +kernel
  have hmessage : "Unknown action: foo" = "Unknown action: " ++ "foo" := rfl
  obtain ⟨n, line, lead, after, hline, -, hrange, hslice, -⟩ :=
    unknownAction_underlined_iff misspelled hx hmessage
  have hn : n = 0 := congrArg (fun r => r.start.line) hrange.symm
  subst hn
  have hfirst : (ofText misspelled).lines[0]? = some "> foo 1#note".toList := by decide +kernel
  obtain rfl := Option.some.inj (hfirst.symm.trans hline)
  exact ⟨hx, hslice.mpr (by decide)⟩

/-- The second is not: four blanks stand before it. The third is taken for its mark. -/
theorem misspelled_misplaced :
    ⟨⟨⟨2, 0⟩, ⟨2, 3⟩⟩, "Unknown action: bar", .error⟩ ∈ (ofText misspelled).reports ∧
      (ofText misspelled).slice ⟨⟨2, 0⟩, ⟨2, 3⟩⟩ = "   ".toList ∧
      (ofText misspelled).slice ⟨⟨2, 4⟩, ⟨2, 7⟩⟩ = "bar".toList ∧
      ⟨⟨⟨4, 0⟩, ⟨4, 1⟩⟩, "Unknown action: ?", .error⟩ ∈ (ofText misspelled).reports ∧
      (ofText misspelled).slice ⟨⟨4, 0⟩, ⟨4, 2⟩⟩ = "? ".toList ∧
      (ofText misspelled).slice ⟨⟨4, 2⟩, ⟨4, 3⟩⟩ = "?".toList := by
  decide +kernel

end Document

end Editor

end Flowline
