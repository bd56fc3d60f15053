import Mathlib.Data.List.Pairwise
import Mathlib.Tactic.Lemma
import Flowline.Proofs.Edits

/-!
The word at a position.

The words of a line are its maximal runs of word characters. At least one other character stands
between two of them, so no column touches both, and the word that is found at a position is the
only one that the position touches.
-/

namespace Flowline.Editor

open Text

/-- The word is a maximal run of word characters between the other two parts of a line. -/
structure IsRun (before word after : List Char) : Prop where
  ne_nil : word ≠ []
  chars : ∀ c ∈ word, isWordChar c = true
  left : ∀ c ∈ before.getLast?, isWordChar c = false
  right : ∀ c ∈ after.head?, isWordChar c = false

lemma units_pos {cs : List Char} (h : cs ≠ []) : 0 < units cs := by
  obtain ⟨c, cs, rfl⟩ := List.exists_cons_of_ne_nil h
  have := charUnits_pos c
  rw [units_cons]
  omega

lemma units_reverse (cs : List Char) : units cs.reverse = units cs := by
  induction cs with
  | nil => rfl
  | cons c cs ih =>
    rw [List.reverse_cons, units_append, ih, units_cons, units_cons, units_nil]
    omega

/-! ### The words of a line -/

section

variable {col : Nat} {acc : List Char}

lemma wordSpans_run {run : List Char} (h : ∀ c ∈ run, isWordChar c = true)
    (rest : List Char) :
    wordSpans col acc (run ++ rest) = wordSpans (col + units run) (run.reverse ++ acc) rest := by
  induction run generalizing col acc with
  | nil => rfl
  | cons c run ih =>
    have hc := h c List.mem_cons_self
    rw [List.cons_append, wordSpans, if_pos hc, ih fun x hx => h x (List.mem_cons_of_mem c hx),
      units_cons, List.reverse_cons, List.append_assoc, Nat.add_assoc]
    rfl

/-- After a character that belongs to no word the reading begins anew. -/
lemma wordSpans_append {cs : List Char} (hne : cs ≠ [])
    (h : ∀ c ∈ cs.getLast?, isWordChar c = false) (rest : List Char) :
    wordSpans col acc (cs ++ rest) =
      wordSpans col acc cs ++ wordSpans (col + units cs) [] rest := by
  induction cs generalizing col acc with
  | nil => exact absurd rfl hne
  | cons c cs ih =>
    by_cases hcs : cs = []
    · subst hcs
      have hc : isWordChar c = false := h c (by simp)
      simp [wordSpans, hc]
    · have hlast : ∀ x ∈ cs.getLast?, isWordChar x = false := by
        rwa [List.getLast?_cons_of_ne_nil hcs] at h
      have hrest (col : Nat) (acc : List Char) : wordSpans col acc (cs ++ rest) =
          wordSpans col acc cs ++ wordSpans (col + units cs) [] rest := ih hcs hlast
      by_cases hc : isWordChar c = true
      · simp only [List.cons_append, wordSpans, if_pos hc, hrest, units_cons, Nat.add_assoc]
      · simp only [List.cons_append, wordSpans, if_neg hc, hrest, units_cons, Nat.add_assoc,
          List.append_assoc]

lemma head_wordSpans (col : Nat) {after : List Char} (hacc : acc ≠ [])
    (h : ∀ c ∈ after.head?, isWordChar c = false) :
    (col - units acc, col) ∈ wordSpans col acc after := by
  have hempty : acc.isEmpty = false := by simpa using hacc
  cases after with
  | nil => simp [wordSpans, hempty]
  | cons c after =>
    have hc : isWordChar c = false := h c (by simp)
    simp [wordSpans, hc, hempty]

/-- The word that is kept is a run if no word character follows. -/
lemma isRun_of_kept {passed : List Char} (after : List Char) {span : Nat × Nat}
    (hpassed : ∀ c ∈ passed.getLast?, isWordChar c = false)
    (hacc : ∀ c ∈ acc, isWordChar c = true) (hafter : ∀ c ∈ after.head?, isWordChar c = false)
    (h : span ∈ if acc.isEmpty then []
      else [(units passed + units acc - units acc, units passed + units acc)]) :
    IsRun passed acc.reverse after ∧
      span = (units passed, units passed + units acc.reverse) := by
  split at h
  · cases h
  · next hne =>
    have hspan := List.mem_singleton.mp h
    rw [Nat.add_sub_cancel] at hspan
    rw [hspan, units_reverse]
    exact ⟨⟨by simpa using hne, fun c hc => hacc c (List.mem_reverse.mp hc), hpassed, hafter⟩, rfl⟩

lemma isRun_of_mem_wordSpans (passed acc : List Char) {rest : List Char} {span : Nat × Nat}
    (hpassed : ∀ c ∈ passed.getLast?, isWordChar c = false)
    (hacc : ∀ c ∈ acc, isWordChar c = true)
    (h : span ∈ wordSpans (units passed + units acc) acc rest) :
    ∃ before word after, passed ++ acc.reverse ++ rest = before ++ word ++ after ∧
      IsRun before word after ∧ span = (units before, units before + units word) := by
  induction rest generalizing passed acc with
  | nil =>
    obtain ⟨hrun, hspan⟩ := isRun_of_kept [] hpassed hacc (by simp) h
    exact ⟨passed, acc.reverse, [], rfl, hrun, hspan⟩
  | cons c rest ih =>
    rw [wordSpans] at h
    by_cases hc : isWordChar c = true
    · -- the word goes on
      have hcol : units passed + units acc + charUnits c = units passed + units (c :: acc) := by
        rw [units_cons]
        omega
      rw [if_pos hc, hcol] at h
      have hchars : ∀ x ∈ c :: acc, isWordChar x = true := by
        intro x hx
        rcases List.mem_cons.mp hx with rfl | hx
        · exact hc
        · exact hacc x hx
      obtain ⟨before, word, after, hline, hfound⟩ := ih passed (c :: acc) hpassed hchars h
      refine ⟨before, word, after, ?_, hfound⟩
      rw [← hline]
      simp
    · -- the word has ended, or none has begun
      rw [if_neg hc] at h
      have hother : isWordChar c = false := by simpa using hc
      rcases List.mem_append.mp h with h | h
      · obtain ⟨hrun, hspan⟩ := isRun_of_kept (c :: rest) hpassed hacc (by simpa) h
        exact ⟨passed, acc.reverse, c :: rest, rfl, hrun, hspan⟩
      · have hcol : units passed + units acc + charUnits c =
            units (passed ++ acc.reverse ++ [c]) + units [] := by
          simp only [units_append, units_reverse, units_cons, units_nil]
          omega
        rw [hcol] at h
        obtain ⟨before, word, after, hline, hfound⟩ :=
          ih (passed ++ acc.reverse ++ [c]) [] (by simpa) (by simp) h
        refine ⟨before, word, after, ?_, hfound⟩
        rw [← hline]
        simp

end

lemma mem_wordSpans_iff {line : List Char} {span : Nat × Nat} :
    span ∈ wordSpans 0 [] line ↔ ∃ before word after, line = before ++ word ++ after ∧
      IsRun before word after ∧ span = (units before, units before + units word) := by
  constructor
  · intro h
    obtain ⟨before, word, after, hline, hfound⟩ :=
      isRun_of_mem_wordSpans [] [] (by simp) (by simp) h
    exact ⟨before, word, after, hline, hfound⟩
  · rintro ⟨before, word, after, rfl, hrun, rfl⟩
    have hword : (units before, units before + units word) ∈
        wordSpans (units before) [] (word ++ after) := by
      rw [wordSpans_run hrun.chars]
      have hkept : word.reverse ++ [] ≠ [] := by simpa using hrun.ne_nil
      have hspan := head_wordSpans (units before + units word) hkept hrun.right
      simpa [units_reverse] using hspan
    by_cases hbefore : before = []
    · subst hbefore
      exact hword
    · rw [List.append_assoc, wordSpans_append hbefore hrun.left, Nat.zero_add]
      exact List.mem_append_right _ hword

/-- Words come one after the other, with something between them. -/
lemma pairwise_wordSpans (col : Nat) (acc cs : List Char) (hacc : units acc ≤ col) :
    (∀ span ∈ wordSpans col acc cs, col - units acc ≤ span.1) ∧
      (wordSpans col acc cs).Pairwise fun s t => s.2 < t.1 := by
  induction cs generalizing col acc with
  | nil =>
    rw [wordSpans]
    split
    · exact ⟨by simp, .nil⟩
    · refine ⟨fun span hspan => ?_, List.pairwise_singleton _ _⟩
      rw [List.mem_singleton.mp hspan]
  | cons c cs ih =>
    have hc := charUnits_pos c
    rw [wordSpans]
    split
    · -- the word goes on
      obtain ⟨hle, hpairwise⟩ := ih (col + charUnits c) (c :: acc) (by rw [units_cons]; omega)
      refine ⟨fun span hspan => ?_, hpairwise⟩
      have := hle span hspan
      rw [units_cons] at this
      omega
    · -- the word has ended, or none has begun
      obtain ⟨hle, hpairwise⟩ := ih (col + charUnits c) [] (Nat.zero_le _)
      simp only [units_nil, Nat.sub_zero] at hle
      split
      · refine ⟨fun span hspan => ?_, hpairwise⟩
        have := hle span hspan
        omega
      · refine ⟨fun span hspan => ?_, List.pairwise_cons.mpr ⟨fun span hspan => ?_, hpairwise⟩⟩
        · rcases List.mem_cons.mp hspan with rfl | hspan
          · exact Nat.le_refl _
          · have := hle span hspan
            omega
        · have := hle span hspan
          exact Nat.lt_of_lt_of_le (by omega) this

/-! ### The word that a position touches -/

lemma append_inj_of_units {xs ys xs' ys' : List Char} (h : xs ++ ys = xs' ++ ys')
    (hunits : units xs = units xs') : xs = xs' ∧ ys = ys' := by
  have hxs : xs = xs' := by
    rw [← takeUnits_units_append xs ys, h, hunits, takeUnits_units_append]
  subst hxs
  exact ⟨rfl, List.append_cancel_left h⟩

namespace Document

variable {d : Document} {p : Position} {r : Range} {before word after : List Char}

/-- The position touches a word of its line. -/
structure OnWord (d : Document) (p : Position) (before word after : List Char) : Prop where
  line : d.lineD p.line = before ++ word ++ after
  run : IsRun before word after
  touches : units before ≤ p.column ∧ p.column ≤ units before + units word

def rangeAt (word : List Char) (n col : Nat) : Range := ⟨⟨n, col⟩, ⟨n, col + units word⟩⟩

lemma touching_unique {line : List Char} {col : Nat} {s t : Nat × Nat}
    (hs : s ∈ wordSpans 0 [] line) (ht : t ∈ wordSpans 0 [] line)
    (hscol : s.1 ≤ col ∧ col ≤ s.2) (htcol : t.1 ≤ col ∧ col ≤ t.2) : s = t := by
  have hapart : (wordSpans 0 [] line).Pairwise fun s t => s.2 < t.1 ∨ t.2 < s.1 :=
    (pairwise_wordSpans 0 [] line (Nat.le_refl _)).2.imp Or.inl
  have : Std.Symm fun s t : Nat × Nat => s.2 < t.1 ∨ t.2 < s.1 := ⟨fun _ _ => Or.symm⟩
  by_contra hne
  have := hapart.forall hs ht hne
  omega

lemma wordRange?_of_onWord (h : d.OnWord (d.clamp p) before word after) :
    d.wordRange? p = some (rangeAt word (d.clamp p).line (units before)) := by
  have hmem : (units before, units before + units word) ∈
      wordSpans 0 [] (d.lineD (d.clamp p).line) :=
    mem_wordSpans_iff.mpr ⟨before, word, after, h.line, h.run, rfl⟩
  have hsome : ((wordSpans 0 [] (d.lineD (d.clamp p).line)).find? fun s =>
      s.1 ≤ (d.clamp p).column && (d.clamp p).column ≤ s.2).isSome :=
    List.find?_isSome.mpr ⟨_, hmem, by simpa using h.touches⟩
  obtain ⟨s, hs⟩ := Option.isSome_iff_exists.mp hsome
  have htouches := List.find?_some hs
  simp only [Bool.and_eq_true, decide_eq_true_eq] at htouches
  have hspan := touching_unique (List.mem_of_find?_eq_some hs) hmem htouches h.touches
  subst hspan
  unfold wordRange?
  exact congrArg (Option.map _) hs

/-- The word that is found is one that the position touches. -/
lemma onWord_of_wordRange? (h : d.wordRange? p = some r) :
    ∃ before word after, d.OnWord (d.clamp p) before word after ∧
      r = rangeAt word (d.clamp p).line (units before) := by
  obtain ⟨s, hs, rfl⟩ := Option.map_eq_some_iff.mp h
  have htouches := List.find?_some hs
  simp only [Bool.and_eq_true, decide_eq_true_eq] at htouches
  obtain ⟨before, word, after, hline, hrun, rfl⟩ :=
    mem_wordSpans_iff.mp (List.mem_of_find?_eq_some hs)
  exact ⟨before, word, after, ⟨hline, hrun, htouches⟩, rfl⟩

lemma OnWord.lt_length {q : Position} (h : d.OnWord q before word after) :
    q.line < d.lines.length := by
  by_contra hge
  have hempty : d.lineD q.line = [] := by
    rw [lineD, List.getElem?_eq_none (by omega)]
    rfl
  have hword := h.line
  rw [hempty] at hword
  simp [h.run.ne_nil] at hword

lemma OnWord.getElem?_eq {q : Position} (h : d.OnWord q before word after) :
    d.lines[q.line]? = some (before ++ word ++ after) := by
  rw [List.getElem?_eq_getElem h.lt_length, ← lineD_of_lt h.lt_length, h.line]

lemma slice_rangeAt {n col : Nat} (hn : n < d.lines.length)
    (hcol : col + units word ≤ units (d.lineD n)) :
    d.slice (rangeAt word n col) = takeUnits (units word) (dropUnits col (d.lineD n)) := by
  have hstart : d.clamp ⟨n, col⟩ = ⟨n, col⟩ := clamp_of_le hn (by omega)
  have hstop : d.clamp ⟨n, col + units word⟩ = ⟨n, col + units word⟩ := clamp_of_le hn hcol
  unfold slice rangeAt
  rw [hstart, hstop]
  simp only [if_true, Nat.add_sub_cancel_left]

lemma OnWord.slice_eq {q : Position} (h : d.OnWord q before word after) :
    d.slice (rangeAt word q.line (units before)) = word := by
  have hunits : units (d.lineD q.line) = units before + units word + units after := by
    rw [h.line, units_append, units_append]
  rw [slice_rangeAt h.lt_length (by omega), h.line, List.append_assoc, dropUnits_units_append,
    takeUnits_units_append]

lemma wordAt?_of_onWord (h : d.OnWord (d.clamp p) before word after) :
    d.wordAt? p = some (String.ofList word, rangeAt word (d.clamp p).line (units before)) := by
  unfold wordAt?
  rw [wordRange?_of_onWord h, Option.map_some, h.slice_eq]

end Document

end Flowline.Editor
