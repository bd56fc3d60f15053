import Mathlib.Data.List.Forall2
import Flowline.Editor.Navigation
import Flowline.Proofs.Digits
import Flowline.Proofs.WordRanges

/-!
The references of a word.

The search for a word in a line goes from one place where the word stands to the next, and jumps
over the whole word each time, whether the word stands there by itself or not. It misses nothing: a
place that it jumps over begins inside the word before it, so a word character stands right before
it. The references are therefore all places at which the word stands by itself. The word under the
cursor is delimited by other characters than those, so that it need not be among them.
-/

namespace Flowline.Editor

open Text

/-- What may stand beside a word that is by itself: nothing, a blank, or one of three marks. -/
def SetOff (beside : Option Char) : Prop :=
  ∀ c ∈ beside, isEditorBlank c = true ∨ c = ':' ∨ c = ',' ∨ c = '#'

lemma setOff_iff {beside : Option Char} :
    SetOff beside ↔ isWordBoundary (beside.getD ' ') = true := by
  cases beside with
  | none => exact ⟨fun _ => by decide, fun _ c hc => nomatch hc⟩
  | some c => simp [SetOff, isWordBoundary, or_assoc]

lemma not_isWordChar_of_isWordBoundary {c : Char} (h : isWordBoundary c = true) :
    isWordChar c = false := by
  by_cases hc : c.toNat < 128
  · exact ascii_forall (P := fun c => isWordBoundary c = true → isWordChar c = false)
      (by decide) hc h
  · have hplain : c.isAlphanum = false := by
      by_contra hplain
      exact hc (ascii_of_isAlphanum (by simpa using hplain))
    have hmark : ∀ m : Char, m.toNat < 128 → (c == m) = false := by
      intro m hm
      refine beq_eq_false_iff_ne.mpr fun heq => hc ?_
      rwa [heq]
    unfold isWordBoundary at h
    rw [hmark ':' (by decide), hmark ',' (by decide), hmark '#' (by decide)] at h
    unfold isWordChar
    rw [hplain, hmark '_' (by decide)]
    simp only [isEditorBlank, isCommonBlank, Bool.or_false, Bool.or_eq_true, Bool.and_eq_true,
      decide_eq_true_eq, beq_iff_eq] at h
    simp only [Bool.false_or, Bool.and_eq_false_iff, decide_eq_false_iff_not]
    omega

/-! ### Searching a line -/

/-- The word stands by itself in the rest of a line, of which a part has been passed already. -/
structure Whole (word passed rest before after : List Char) : Prop where
  split : rest = before ++ word ++ after
  left : SetOff (passed ++ before).getLast?
  right : SetOff after.head?

/-- Before its place between the two texts the word does not stand anywhere in them. -/
def First (word skipped after : List Char) : Prop :=
  ∀ s t, skipped ++ word ++ after = s ++ word ++ t → skipped.length ≤ s.length

/-- The search for a word in the rest of a line, with the columns that it reports. -/
inductive Searched (word : List Char) : List Char → List Char → List Nat → Prop
  /-- The word does not stand in the rest, and the search ends. -/
  | done {passed rest : List Char} (absent : ¬ word <:+: rest) : Searched word passed rest []
  /-- The next place is reported, and the search goes on after the word. -/
  | hit {passed skipped after : List Char} {cols : List Nat} (first : First word skipped after)
      (whole : Whole word passed (skipped ++ word ++ after) skipped after)
      (onward : Searched word (passed ++ skipped ++ word) after cols) :
      Searched word passed (skipped ++ word ++ after) (units (passed ++ skipped) :: cols)
  /-- The word does not stand by itself at the next place, and the search goes on after it. -/
  | miss {passed skipped after : List Char} {cols : List Nat} (first : First word skipped after)
      (part : ¬ Whole word passed (skipped ++ word ++ after) skipped after)
      (onward : Searched word (passed ++ skipped ++ word) after cols) :
      Searched word passed (skipped ++ word ++ after) cols

section

variable {word passed rest skipped before after : List Char} {cols : List Nat}

/-- A place that begins inside the word begins with the word: the character before it would be one
of the word. -/
lemma eq_nil_of_overlap (hword : ∀ c ∈ word, isWordChar c = true) {mid rest : List Char}
    (h : word = mid ++ rest) (hleft : SetOff (passed ++ mid).getLast?) : mid = [] := by
  by_contra hne
  rw [List.getLast?_append_of_ne_nil _ hne, List.getLast?_eq_some_getLast hne] at hleft
  have hmem : mid.getLast hne ∈ word := h ▸ List.mem_append_left rest (List.getLast_mem hne)
  have hother := not_isWordChar_of_isWordBoundary (setOff_iff.mp hleft)
  rw [Option.getD_some, hword _ hmem] at hother
  cases hother

/-- Where a word stands by itself, it is at the first place or after it, and not half in it. -/
lemma Whole.first_or_onward (hword : ∀ c ∈ word, isWordChar c = true)
    (first : First word skipped after) {s t : List Char}
    (h : Whole word passed (skipped ++ word ++ after) s t) :
    (s = skipped ∧ t = after) ∨
      ∃ more, s = skipped ++ word ++ more ∧
        Whole word (passed ++ skipped ++ word) after more t := by
  have hs : s <+: skipped ++ word ++ after := ⟨word ++ t, by rw [h.split, List.append_assoc]⟩
  have hskipped : skipped <+: skipped ++ word ++ after := ⟨word ++ after, by simp⟩
  obtain ⟨mid, rfl⟩ := List.prefix_of_prefix_length_le hskipped hs (first s t h.split)
  have hsplit : word ++ after = mid ++ (word ++ t) := by
    have := h.split
    simp only [List.append_assoc] at this
    exact List.append_cancel_left this
  -- the place found begins where the first one has ended, or inside it
  rcases List.append_eq_append_iff.mp hsplit with ⟨more, rfl, hafter⟩ | ⟨_, hinside, -⟩
  · -- after the first place
    refine .inr ⟨more, by simp, by simpa using hafter, ?_, h.right⟩
    have := h.left
    simpa using this
  · -- inside it
    have hmid : mid = [] := by
      have := h.left
      rw [← List.append_assoc] at this
      exact eq_nil_of_overlap hword hinside this
    subst hmid
    exact .inl ⟨by simp, (List.append_cancel_left hsplit).symm⟩

lemma Whole.of_onward {more t : List Char}
    (h : Whole word (passed ++ skipped ++ word) after more t) :
    Whole word passed (skipped ++ word ++ after) (skipped ++ word ++ more) t := by
  refine ⟨?_, ?_, h.right⟩
  · rw [h.split]
    simp
  · have := h.left
    simpa using this

/-- The places of the word by itself are the first one, if it is one, and those after it. -/
lemma exists_whole_iff (hword : ∀ c ∈ word, isWordChar c = true)
    (first : First word skipped after) {P : List Char → Prop} :
    (∃ s t, Whole word passed (skipped ++ word ++ after) s t ∧ P s) ↔
      (Whole word passed (skipped ++ word ++ after) skipped after ∧ P skipped) ∨
        ∃ s t, Whole word (passed ++ skipped ++ word) after s t ∧ P (skipped ++ word ++ s) := by
  constructor
  · rintro ⟨s, t, h, hs⟩
    rcases h.first_or_onward hword first with ⟨rfl, rfl⟩ | ⟨more, rfl, honward⟩
    · exact .inl ⟨h, hs⟩
    · exact .inr ⟨more, t, honward, hs⟩
  · rintro (⟨h, hs⟩ | ⟨s, t, h, hs⟩)
    · exact ⟨skipped, after, h, hs⟩
    · exact ⟨skipped ++ word ++ s, t, h.of_onward, hs⟩

/-- The search reports all places at which the word stands by itself, and no others. -/
lemma Searched.mem_iff (hword : ∀ c ∈ word, isWordChar c = true)
    (h : Searched word passed rest cols) {col : Nat} :
    col ∈ cols ↔ ∃ s t, Whole word passed rest s t ∧ col = units (passed ++ s) := by
  induction h with
  | done absent =>
    refine iff_of_false List.not_mem_nil ?_
    rintro ⟨s, t, whole, -⟩
    exact absent ⟨s, t, whole.split.symm⟩
  | hit first whole onward ih =>
    rw [exists_whole_iff hword first, List.mem_cons, ih]
    simp only [whole, true_and, ← List.append_assoc]
  | miss first part onward ih =>
    rw [exists_whole_iff hword first, ih]
    simp only [part, false_and, false_or, ← List.append_assoc]

lemma Searched.pairwise (hne : word ≠ []) (hword : ∀ c ∈ word, isWordChar c = true)
    (h : Searched word passed rest cols) : cols.Pairwise (· < ·) := by
  induction h with
  | done absent => exact .nil
  | hit first whole onward ih =>
    refine List.pairwise_cons.mpr ⟨fun col hcol => ?_, ih⟩
    obtain ⟨s, t, -, rfl⟩ := (onward.mem_iff hword).mp hcol
    have hpos := units_pos hne
    simp only [units_append]
    omega
  | miss first part onward ih => exact ih

/-! ### The search that is made -/

lemma occurrences_passed (word xs rest : List Char) (b : Char) (col : Nat) :
    occurrences word xs.length b col (xs ++ rest) =
      occurrences word 0 (xs.getLast?.getD b) (col + units xs) rest := by
  induction xs generalizing b col with
  | nil => rfl
  | cons x xs ih =>
    rw [List.length_cons, List.cons_append, occurrences, ih, List.getLast?_cons, Option.getD_some,
      units_cons, Nat.add_assoc]

lemma occurrences_skipped (first : First word skipped after) (b : Char) (col : Nat) :
    occurrences word 0 b col (skipped ++ word ++ after) =
      occurrences word 0 (skipped.getLast?.getD b) (col + units skipped) (word ++ after) := by
  induction skipped generalizing b col with
  | nil => rfl
  | cons c skipped ih =>
    -- the word does not stand here, or this would be an earlier place
    have hprefix : ¬ word.isPrefixOf (c :: (skipped ++ word ++ after)) = true := by
      intro h
      obtain ⟨t, ht⟩ := List.isPrefixOf_iff_prefix.mp h
      exact absurd (first [] t ht.symm) (by simp)
    have hfirst : First word skipped after := by
      intro s t hst
      have := first (c :: s) t (by simpa using hst)
      simpa using this
    rw [List.cons_append, List.cons_append, occurrences, if_neg hprefix, ih hfirst,
      List.getLast?_cons, Option.getD_some, units_cons, Nat.add_assoc]

/-- At a place of the word its two neighbours are looked at, and the word is jumped over. -/
lemma occurrences_word (hne : word ≠ []) (b : Char) (col : Nat) (after : List Char) :
    occurrences word 0 b col (word ++ after) =
      (if isWordBoundary b && isWordBoundary (after.head?.getD ' ') then [col] else []) ++
        occurrences word 0 (word.getLast?.getD b) (col + units word) after := by
  obtain ⟨c, ws, rfl⟩ := List.exists_cons_of_ne_nil hne
  have hprefix : (c :: ws).isPrefixOf (c :: (ws ++ after)) = true :=
    List.isPrefixOf_iff_prefix.mpr ⟨after, rfl⟩
  have hafter : (c :: (ws ++ after)).drop (c :: ws).length = after := by simp
  rw [List.cons_append, occurrences, if_pos hprefix, hafter, List.headD_eq_head?_getD,
    List.length_cons, Nat.add_sub_cancel, occurrences_passed, List.getLast?_cons, Option.getD_some,
    units_cons, Nat.add_assoc]

lemma occurrences_of_absent (h : ¬ word <:+: rest) (b : Char) (col : Nat) :
    occurrences word 0 b col rest = [] := by
  induction rest generalizing b col with
  | nil => rfl
  | cons c rest ih =>
    have hprefix : ¬ word.isPrefixOf (c :: rest) = true := by
      intro hp
      exact h (List.isPrefixOf_iff_prefix.mp hp).isInfix
    have hrest : ¬ word <:+: rest := fun hi => h (List.infix_cons hi)
    rw [occurrences, if_neg hprefix, ih hrest]

lemma exists_first (h : word <:+: rest) :
    ∃ skipped after, rest = skipped ++ word ++ after ∧ First word skipped after := by
  induction rest with
  | nil =>
    have hnil : word = [] := List.infix_nil.mp h
    exact ⟨[], [], by simp [hnil], fun s t _ => Nat.zero_le _⟩
  | cons c rest ih =>
    by_cases hprefix : word <+: c :: rest
    · -- the first place is here
      obtain ⟨t, ht⟩ := hprefix
      exact ⟨[], t, ht.symm, fun s t _ => Nat.zero_le _⟩
    · have hrest : word <:+: rest := (List.infix_cons_iff.mp h).resolve_left hprefix
      obtain ⟨skipped, after, rfl, first⟩ := ih hrest
      refine ⟨c :: skipped, after, rfl, fun s t hst => ?_⟩
      cases s with
      | nil => exact absurd ⟨t, hst.symm⟩ hprefix
      | cons x s => exact Nat.succ_le_succ (first s t (List.cons.inj hst).2)

lemma whole_iff : Whole word passed (skipped ++ word ++ after) skipped after ↔
    (isWordBoundary ((passed ++ skipped).getLast?.getD ' ') &&
      isWordBoundary (after.head?.getD ' ')) = true := by
  rw [Bool.and_eq_true, ← setOff_iff, ← setOff_iff]
  exact ⟨fun h => ⟨h.left, h.right⟩, fun h => ⟨rfl, h.1, h.2⟩⟩

/-- What is found in a line is what the search reports, so the search comes to an end. -/
lemma searched_occurrences (hne : word ≠ []) (passed rest : List Char) :
    Searched word passed rest
      (occurrences word 0 (passed.getLast?.getD ' ') (units passed) rest) := by
  -- each jump leaves less of the line to be searched
  induction hlen : rest.length using Nat.strong_induction_on generalizing passed rest with
  | _ n ih =>
    by_cases hinfix : word <:+: rest
    · obtain ⟨skipped, after, rfl, first⟩ := exists_first hinfix
      have hshorter : after.length < n := by
        have := List.length_pos_iff.mpr hne
        simp only [List.length_append] at hlen
        omega
      have onward := ih after.length hshorter (passed ++ skipped ++ word) after rfl
      simp only [occurrences_skipped first, occurrences_word hne, ← Option.getD_or,
        ← List.getLast?_append, ← units_append]
      split
      · next h => exact .hit first (whole_iff.mpr h) onward
      · next h => exact .miss first (fun whole => h (whole_iff.mp whole)) onward
    · rw [occurrences_of_absent hinfix]
      exact .done hinfix

end

/-! ### The references in a document -/

/-- A position comes before another, by line and then by column. -/
def Position.Before (a b : Position) : Prop :=
  a.line < b.line ∨ a.line = b.line ∧ a.column < b.column

namespace Document

variable {d : Document} {p : Position} {r : Range} {before word after : List Char}

/-- The word stands by itself at a range of the document. -/
def StandsAt (d : Document) (word : List Char) (r : Range) : Prop :=
  ∃ n line before after, d.lines[n]? = some line ∧ Whole word [] line before after ∧
    r = rangeAt word n (units before)

/-- The references are what is found in the lines, one after the other. -/
lemma references_of_onWord (h : d.OnWord (d.clamp p) before word after) :
    d.references p = d.lines.zipIdx.flatMap fun l =>
      (occurrences word 0 ' ' 0 l.1).map (rangeAt word l.2) := by
  unfold references
  rw [wordAt?_of_onWord h]
  simp only [String.toList_ofList]
  rfl

lemma mem_references_iff (h : d.OnWord (d.clamp p) before word after) :
    r ∈ d.references p ↔ d.StandsAt word r := by
  have hsearched (line : List Char) : Searched word [] line (occurrences word 0 ' ' 0 line) :=
    searched_occurrences h.run.ne_nil [] line
  rw [references_of_onWord h, List.mem_flatMap]
  constructor
  · rintro ⟨⟨line, n⟩, hline, hr⟩
    obtain ⟨col, hcol, rfl⟩ := List.mem_map.mp hr
    obtain ⟨s, t, whole, rfl⟩ := ((hsearched line).mem_iff h.run.chars).mp hcol
    exact ⟨n, line, s, t, List.mk_mem_zipIdx_iff_getElem?.mp hline, whole, rfl⟩
  · rintro ⟨n, line, s, t, hline, whole, rfl⟩
    refine ⟨(line, n), List.mk_mem_zipIdx_iff_getElem?.mpr hline, List.mem_map_of_mem ?_⟩
    exact ((hsearched line).mem_iff h.run.chars).mpr ⟨s, t, whole, rfl⟩

lemma pairwise_references (h : d.OnWord (d.clamp p) before word after) :
    (d.references p).Pairwise fun r s => r.start.Before s.start := by
  rw [references_of_onWord h, List.pairwise_flatMap]
  constructor
  · intro l _
    have hcols := (searched_occurrences h.run.ne_nil [] l.1).pairwise h.run.ne_nil h.run.chars
    exact List.pairwise_map.mpr (hcols.imp fun hlt => .inr ⟨rfl, hlt⟩)
  · refine (pairwise_zipIdx d.lines 0).imp fun hlt r hr s hs => ?_
    obtain ⟨c, -, rfl⟩ := List.mem_map.mp hr
    obtain ⟨e, -, rfl⟩ := List.mem_map.mp hs
    exact .inl hlt

/-- Finding references is exact. In every line the search comes to an end, although it jumps over
the whole word at each place where the word stands; the ranges that it reports come in the order of
the text, each once; and they are all ranges at which the word stands by itself. -/
theorem references_exact (h : d.OnWord (d.clamp p) before word after) :
    (∃ found : List (List Nat), List.Forall₂ (Searched word []) d.lines found ∧
      d.references p = found.zipIdx.flatMap fun l => l.1.map (rangeAt word l.2)) ∧
    (d.references p).Pairwise (fun r s => r.start.Before s.start) ∧
    (d.references p).Nodup ∧
    ∀ r, r ∈ d.references p ↔ d.StandsAt word r := by
  have hordered := pairwise_references h
  refine ⟨⟨d.lines.map (occurrences word 0 ' ' 0), ?_, ?_⟩, hordered, ?_, fun r =>
    mem_references_iff h⟩
  · rw [List.forall₂_map_right_iff, List.forall₂_same]
    exact fun line _ => searched_occurrences h.run.ne_nil [] line
  · rw [references_of_onWord h, List.zipIdx_map, List.flatMap_map]
    rfl
  · refine hordered.imp fun {r s} hrs heq => ?_
    unfold Position.Before at hrs
    rw [heq] at hrs
    omega

/-- Lines in which a word overlaps itself, and stands at the end of the line. -/
def overlappingWords : Document := { lines := ["哈哈 哈哈哈,哈哈".toList, "x:哈哈".toList] }

/-- The place in the middle of the first line is not reported, and jumping over it loses nothing. -/
theorem overlappingWords_references :
    overlappingWords.references ⟨0, 8⟩ =
      [⟨⟨0, 0⟩, ⟨0, 2⟩⟩, ⟨⟨0, 7⟩, ⟨0, 9⟩⟩, ⟨⟨1, 2⟩, ⟨1, 4⟩⟩] ∧
    (overlappingWords.references ⟨0, 8⟩).Nodup ∧
    ∀ r, r ∈ overlappingWords.references ⟨0, 8⟩ ↔ overlappingWords.StandsAt "哈哈".toList r := by
  have hrun : IsRun "哈哈 哈哈哈,".toList "哈哈".toList [] :=
    ⟨by decide, forall_mem_of_all (by decide), by simp; decide, by simp⟩
  have hon : overlappingWords.OnWord (overlappingWords.clamp ⟨0, 8⟩) "哈哈 哈哈哈,".toList
      "哈哈".toList [] := ⟨by decide +kernel, hrun, by decide +kernel⟩
  have hexact := references_exact hon
  exact ⟨by decide +kernel, hexact.2.2.1, hexact.2.2.2⟩

def charBefore? (d : Document) (q : Position) : Option Char :=
  (takeUnits q.column (d.lineD q.line)).getLast?

def charAfter? (d : Document) (q : Position) : Option Char :=
  (dropUnits q.column (d.lineD q.line)).head?

lemma OnWord.charBefore?_eq {q : Position} (h : d.OnWord q before word after) :
    d.charBefore? (rangeAt word q.line (units before)).start = before.getLast? := by
  unfold charBefore? rangeAt
  rw [h.line, List.append_assoc, takeUnits_units_append]

lemma OnWord.charAfter?_eq {q : Position} (h : d.OnWord q before word after) :
    d.charAfter? (rangeAt word q.line (units before)).stop = after.head? := by
  unfold charAfter? rangeAt
  rw [h.line, ← units_append, dropUnits_units_append]

/-- A word of a line stands by itself if its neighbours in the line set it off. -/
lemma OnWord.standsAt_iff {q : Position} (h : d.OnWord q before word after) :
    d.StandsAt word (rangeAt word q.line (units before)) ↔
      SetOff before.getLast? ∧ SetOff after.head? := by
  constructor
  · rintro ⟨n, line, s, t, hline, whole, heq⟩
    have hstart := congrArg Range.start heq
    obtain ⟨hn, hunits⟩ := Position.mk.inj hstart
    rw [← hn, h.getElem?_eq] at hline
    have hsplit : before ++ (word ++ after) = s ++ (word ++ t) := by
      rw [← List.append_assoc, ← List.append_assoc, ← whole.split]
      exact Option.some.inj hline
    obtain ⟨rfl, hrest⟩ := append_inj_of_units hsplit hunits
    obtain rfl := List.append_cancel_left hrest
    exact ⟨whole.left, whole.right⟩
  · rintro ⟨hleft, hright⟩
    exact ⟨q.line, _, before, after, h.getElem?_eq, ⟨rfl, hleft, hright⟩, rfl⟩

/-- A word is among its own references if, and only if, both of its neighbours set it off. Brackets,
operators and most punctuation do not, although the word under the cursor ends at them. -/
theorem own_range_mem_iff (h : d.wordRange? p = some r) :
    r ∈ d.references p ↔ SetOff (d.charBefore? r.start) ∧ SetOff (d.charAfter? r.stop) := by
  obtain ⟨before, word, after, hon, rfl⟩ := onWord_of_wordRange? h
  rw [mem_references_iff hon, hon.standsAt_iff, hon.charBefore?_eq, hon.charAfter?_eq]

def countedLoop : Document := .ofText "置 n 3\n扭扭 i in range(n):\n印 i\n终"

/-- The assignment of the variable is among its own references. -/
theorem countedLoop_assignment :
    countedLoop.wordRange? ⟨0, 2⟩ = some ⟨⟨0, 2⟩, ⟨0, 3⟩⟩ ∧
      ⟨⟨0, 2⟩, ⟨0, 3⟩⟩ ∈ countedLoop.references ⟨0, 2⟩ := by
  have hword : countedLoop.wordRange? ⟨0, 2⟩ = some ⟨⟨0, 2⟩, ⟨0, 3⟩⟩ := by decide +kernel
  refine ⟨hword, (own_range_mem_iff hword).mpr ⟨?_, ?_⟩⟩
  · exact setOff_iff.mpr (by decide +kernel)
  · exact setOff_iff.mpr (by decide +kernel)

/-- Its use between brackets is not, although the references are asked for there. -/
theorem countedLoop_use :
    countedLoop.wordRange? ⟨1, 14⟩ = some ⟨⟨1, 14⟩, ⟨1, 15⟩⟩ ∧
      countedLoop.references ⟨1, 14⟩ = [⟨⟨0, 2⟩, ⟨0, 3⟩⟩] ∧
      ⟨⟨1, 14⟩, ⟨1, 15⟩⟩ ∉ countedLoop.references ⟨1, 14⟩ := by
  decide +kernel

end Document

end Flowline.Editor
