import Mathlib.Data.List.DropRight
import Mathlib.Data.List.TakeWhile
import Mathlib.Tactic.Lemma
import Flowline.Proofs.Reading

/-!
The words of a line.

Blanks at either end of a line belong to no word, and neither does a comment at its end. So the
token of a line is settled by the words in front of the first `#`, however they are spaced; and the
ways to end a line that a file may mix give the same lines.
-/

namespace Flowline

open Text

variable {p : Char → Bool}

/-! ### Words and blanks -/

lemma words_append_cons (cs ds : List Char) {b : Char} (h : p b = true) :
    words p (cs ++ b :: ds) = words p cs ++ words p ds := by
  simp [words, List.splitOnP_append_cons cs ds h]

lemma words_of_blank {bs : List Char} (h : ∀ b ∈ bs, p b = true) : words p bs = [] := by
  induction bs with
  | nil => exact words_nil p
  | cons b bs ih =>
    rw [words_cons_of_pos (h b (by simp)), ih fun c hc => h c (List.mem_cons_of_mem b hc)]

lemma words_append_of_blank (cs : List Char) {bs : List Char} (h : ∀ b ∈ bs, p b = true) :
    words p (cs ++ bs) = words p cs := by
  cases bs with
  | nil => rw [List.append_nil]
  | cons b bs =>
    rw [words_append_cons cs bs (h b (by simp)),
      words_of_blank fun c hc => h c (List.mem_cons_of_mem b hc), List.append_nil]

lemma words_of_forall_not {cs : List Char} (hne : cs ≠ []) (h : ∀ c ∈ cs, p c = false) :
    words p cs = [cs] := by
  simp [words, List.splitOnP_eq_singleton h, hne]

lemma trimEnd_append_blank (p : Char → Bool) (cs : List Char) :
    ∃ bs, (∀ b ∈ bs, p b = true) ∧ cs = trimEnd p cs ++ bs := by
  refine ⟨(cs.reverse.takeWhile p).reverse, fun b hb => ?_, ?_⟩
  · exact List.mem_takeWhile_imp (List.mem_reverse.mp hb)
  · rw [trimEnd, ← List.reverse_append, List.takeWhile_append_dropWhile, List.reverse_reverse]

lemma trimEnd_append_of_blank (cs : List Char) {bs : List Char} (h : ∀ b ∈ bs, p b = true) :
    trimEnd p (cs ++ bs) = trimEnd p cs := by
  unfold trimEnd
  rw [List.reverse_append, List.dropWhile_append_of_pos fun b hb => h b (List.mem_reverse.mp hb)]

lemma trimEnd_trimEnd (p : Char → Bool) (cs : List Char) :
    trimEnd p (trimEnd p cs) = trimEnd p cs := by
  obtain ⟨bs, hbs, hcs⟩ := trimEnd_append_blank p cs
  have hcut := trimEnd_append_of_blank (trimEnd p cs) hbs
  rwa [← hcs, eq_comm] at hcut

lemma trim_append_of_blank (cs : List Char) {bs : List Char} (h : ∀ b ∈ bs, p b = true) :
    trim p (cs ++ bs) = trim p cs := by
  unfold trim trimStart
  rw [List.dropWhile_append]
  split_ifs with hempty
  · have hbs : bs.dropWhile p = [] := List.dropWhile_eq_nil_iff.mpr h
    rw [hbs, List.isEmpty_iff.mp hempty]
  · exact trimEnd_append_of_blank _ h

lemma trim_blank_append {bs : List Char} (h : ∀ b ∈ bs, p b = true) (cs : List Char) :
    trim p (bs ++ cs) = trim p cs := by
  unfold trim trimStart
  rw [List.dropWhile_append_of_pos h]

lemma trim_trimEnd (p : Char → Bool) (cs : List Char) : trim p (trimEnd p cs) = trim p cs := by
  obtain ⟨bs, hbs, hcs⟩ := trimEnd_append_blank p cs
  conv_rhs => rw [hcs, trim_append_of_blank _ hbs]

lemma trim_trimStart (p : Char → Bool) (cs : List Char) : trim p (trimStart p cs) = trim p cs := by
  have hcs : cs.takeWhile p ++ trimStart p cs = cs := List.takeWhile_append_dropWhile
  conv_rhs => rw [← hcs, trim_blank_append fun b hb => List.mem_takeWhile_imp hb]

@[simp] lemma trim_trim (p : Char → Bool) (cs : List Char) : trim p (trim p cs) = trim p cs := by
  conv_lhs => rw [trim.eq_def p cs]
  rw [trim_trimEnd, trim_trimStart]

lemma mem_trimEnd_of_not {cs : List Char} {c : Char} (hc : c ∈ cs) (hp : p c = false) :
    c ∈ trimEnd p cs := by
  obtain ⟨bs, hbs, hcs⟩ := trimEnd_append_blank p cs
  rw [hcs] at hc
  rcases List.mem_append.mp hc with h | h
  · exact h
  · simp [hbs c h] at hp

lemma mem_trim_of_not {cs : List Char} {c : Char} (hc : c ∈ cs) (hp : p c = false) :
    c ∈ trim p cs := by
  have hsplit : cs = cs.takeWhile p ++ trimStart p cs := List.takeWhile_append_dropWhile.symm
  rw [hsplit] at hc
  rcases List.mem_append.mp hc with h | h
  · simp [List.mem_takeWhile_imp h] at hp
  · exact mem_trimEnd_of_not h hp

/-- Blanks at the end do not change the first character that is none. -/
lemma head?_trim (p : Char → Bool) (cs : List Char) :
    (trim p cs).head? = (trimStart p cs).head? := by
  obtain ⟨bs, hbs, hcs⟩ := trimEnd_append_blank p (trimStart p cs)
  rw [trim]
  cases hend : trimEnd p (trimStart p cs) with
  | cons c ds =>
    rw [hcs, hend]
    rfl
  | nil =>
    -- then all that is left is blank, and a blank would not have been left
    rw [hend, List.nil_append] at hcs
    cases hbs' : bs with
    | nil => rw [hcs, hbs']
    | cons b bs' =>
      have hhead := List.head?_dropWhile_not p cs
      rw [show cs.dropWhile p = b :: bs' from hcs.trans hbs'] at hhead
      have hb := hbs b (by simp [hbs'])
      simp [hb] at hhead

lemma words_trimStart (p : Char → Bool) (cs : List Char) :
    words p (trimStart p cs) = words p cs := by
  induction cs with
  | nil => rfl
  | cons c cs ih =>
    rw [trimStart, List.dropWhile_cons]
    split
    · next hc => rw [words_cons_of_pos hc, ← ih, trimStart]
    · rfl

lemma words_blank_append {bs : List Char} (h : ∀ b ∈ bs, p b = true) (cs : List Char) :
    words p (bs ++ cs) = words p cs := by
  rw [← words_trimStart, trimStart, List.dropWhile_append_of_pos h]
  exact words_trimStart p cs

lemma words_trimEnd (p : Char → Bool) (cs : List Char) : words p (trimEnd p cs) = words p cs := by
  obtain ⟨bs, hbs, hcs⟩ := trimEnd_append_blank p cs
  conv_rhs => rw [hcs]
  rw [words_append_of_blank _ hbs]

lemma words_trim (p : Char → Bool) (cs : List Char) : words p (trim p cs) = words p cs := by
  rw [trim, words_trimEnd, words_trimStart]

lemma not_blank_of_trim {cs ds : List Char} {c : Char} (h : trim p cs = c :: ds) : p c = false := by
  obtain ⟨bs, -, hbs⟩ := trimEnd_append_blank p (trimStart p cs)
  have hstart : cs.dropWhile p = c :: (ds ++ bs) := by
    rw [← List.cons_append, ← h]
    exact hbs
  have hhead := List.head?_dropWhile_not p cs
  rw [hstart] at hhead
  simpa using hhead

lemma words_word_append {w rest : List Char} (hne : w ≠ []) (hw : ∀ c ∈ w, p c = false)
    (hrest : ∀ c ∈ rest.head?, p c = true) : words p (w ++ rest) = w :: words p rest := by
  cases rest with
  | nil => simpa [words_nil] using words_of_forall_not hne hw
  | cons b rest =>
    have hb : p b = true := hrest b (by simp)
    rw [words_append_cons w rest hb, words_of_forall_not hne hw, words_cons_of_pos hb]
    rfl

lemma words_append_of_last {bs : List Char} (h : ∀ c ∈ bs.getLast?, p c = true) (cs : List Char) :
    words p (bs ++ cs) = words p bs ++ words p cs := by
  rcases List.eq_nil_or_concat' bs with rfl | ⟨bs, b, rfl⟩
  · rw [words_nil, List.nil_append, List.nil_append]
  · have hb : p b = true := h b (by simp)
    rw [List.append_assoc, List.singleton_append, words_append_cons bs cs hb,
      words_append_of_blank bs (by simpa using hb)]

lemma words_run {bs w cs : List Char} (hbs : ∀ c ∈ bs.getLast?, p c = true) (hne : w ≠ [])
    (hw : ∀ c ∈ w, p c = false) (hcs : ∀ c ∈ cs.head?, p c = true) :
    words p (bs ++ w ++ cs) = words p bs ++ w :: words p cs := by
  rw [List.append_assoc, words_append_of_last hbs, words_word_append hne hw hcs]

/-- The word at the beginning of a text, which is empty if the text begins with a blank. -/
lemma exists_first_run (p : Char → Bool) (cs : List Char) :
    ∃ w rest, cs = w ++ rest ∧ (∀ c ∈ w, p c = false) ∧ ∀ c ∈ rest.head?, p c = true := by
  refine ⟨cs.takeWhile (! p ·), cs.dropWhile (! p ·), List.takeWhile_append_dropWhile.symm,
    fun c hc => by simpa using List.mem_takeWhile_imp hc, fun c hc => ?_⟩
  have hnot := List.head?_dropWhile_not (! p ·) cs
  rw [Option.mem_def.mp hc] at hnot
  simpa using hnot

/-- The word at the end of a text, which is empty if the text ends with a blank. -/
lemma exists_last_run (p : Char → Bool) (cs : List Char) :
    ∃ bs w, cs = bs ++ w ∧ (∀ c ∈ bs.getLast?, p c = true) ∧ ∀ c ∈ w, p c = false := by
  refine ⟨cs.rdropWhile (! p ·), cs.rtakeWhile (! p ·), ?_, fun c hc => ?_, fun c hc => ?_⟩
  · exact (List.rdropWhile_append_rtakeWhile ..).symm
  · obtain ⟨hne, rfl⟩ := List.mem_getLast?_eq_getLast hc
    simpa using List.rdropWhile_last_not _ _ hne
  · simpa using List.mem_rtakeWhile_imp hc

/-- The first word stands after nothing but blanks, and ends at a blank. -/
lemma split_of_words_eq_cons {cs w : List Char} {ws : List (List Char)} (h : words p cs = w :: ws) :
    ∃ bs rest, cs = bs ++ w ++ rest ∧ (∀ b ∈ bs, p b = true) ∧ w ≠ [] ∧
      (∀ c ∈ w, p c = false) ∧ (∀ c ∈ rest.head?, p c = true) ∧ words p rest = ws := by
  have hcs : cs = cs.takeWhile p ++ trimStart p cs := List.takeWhile_append_dropWhile.symm
  obtain ⟨v, rest, htrim, hv, hrest⟩ := exists_first_run p (trimStart p cs)
  have hne : v ≠ [] := by
    rintro rfl
    -- then nothing is left after the blanks, and there is no word
    have hnil : rest = [] := by
      cases hstart : rest with
      | nil => rfl
      | cons c ds =>
        have hhead := List.head?_dropWhile_not p cs
        rw [show cs.dropWhile p = c :: ds from htrim.trans hstart] at hhead
        simp [hrest c (by simp [hstart])] at hhead
    rw [← words_trimStart, htrim, hnil, List.nil_append, words_nil] at h
    cases h
  rw [← words_trimStart, htrim, words_word_append hne hv hrest] at h
  obtain ⟨rfl, rfl⟩ := List.cons.inj h
  refine ⟨cs.takeWhile p, rest, ?_, fun b hb => List.mem_takeWhile_imp hb, hne, hv, hrest, rfl⟩
  rw [List.append_assoc, ← htrim, ← hcs]

/-! ### The part of a line before a comment -/

def beforeHash (line : List Char) : List Char := line.takeWhile (· != '#')

lemma words_beforeHash_trimStart (hp : p '#' = false) (line : List Char) :
    words p (beforeHash (trimStart p line)) = words p (beforeHash line) := by
  induction line with
  | nil => rfl
  | cons c cs ih =>
    rw [trimStart, List.dropWhile_cons]
    split
    · next hc =>
      have hne : c ≠ '#' := by rintro rfl; simp [hp] at hc
      have hcons : beforeHash (c :: cs) = c :: beforeHash cs := by simp [beforeHash, hne]
      rw [hcons, words_cons_of_pos hc, ← ih, trimStart]
    · rfl

lemma words_beforeHash_trimEnd (hp : p '#' = false) (line : List Char) :
    words p (beforeHash (trimEnd p line)) = words p (beforeHash line) := by
  obtain ⟨bs, hbs, hline⟩ := trimEnd_append_blank p line
  have hhash : ∀ b ∈ bs, (b != '#') = true := by
    intro b hb
    have := hbs b hb
    simp only [bne_iff_ne, ne_eq]
    rintro rfl
    simp [hp] at this
  conv_rhs => rw [hline]
  unfold beforeHash
  rw [List.takeWhile_append]
  split
  · next hall =>
    rw [List.takeWhile_eq_self_iff.mpr hhash, words_append_of_blank _ hbs,
      (List.takeWhile_prefix _).eq_of_length hall]
  · rfl

lemma words_beforeHash_trim (hp : p '#' = false) (line : List Char) :
    words p (beforeHash (trim p line)) = words p (beforeHash line) := by
  rw [trim, words_beforeHash_trimEnd hp, words_beforeHash_trimStart hp]

lemma beforeHash_of_notMem {line : List Char} (h : '#' ∉ line) : beforeHash line = line := by
  refine List.takeWhile_eq_self_iff.mpr fun c hc => ?_
  rw [bne_iff_ne]
  rintro rfl
  exact h hc

lemma notMem_beforeHash (line : List Char) : '#' ∉ beforeHash line := by
  intro h
  simpa using List.mem_takeWhile_imp h

lemma beforeHash_append_hash {l : List Char} (h : '#' ∈ l) :
    ∃ rest, l = beforeHash l ++ '#' :: rest := by
  have hsplit : beforeHash l ++ l.dropWhile (· != '#') = l := List.takeWhile_append_dropWhile
  have hhead := List.head?_dropWhile_not (· != '#') l
  cases hdrop : l.dropWhile (· != '#') with
  | nil =>
    rw [hdrop, List.append_nil] at hsplit
    rw [← hsplit] at h
    exact absurd h (notMem_beforeHash l)
  | cons c rest =>
    rw [hdrop] at hsplit hhead
    obtain rfl : c = '#' := by simpa using hhead
    exact ⟨rest, hsplit.symm⟩

/-! ### Tokens -/

lemma trim_of_hash (hp : p '#' = false) (cs : List Char) :
    (trim p ('#' :: cs)).head? = some '#' := by
  rw [head?_trim]
  simp [trimStart, hp]

/-- The token of a line without a comment is the one of its words. -/
lemma Token.ofLine_of_notMem {line : List Char} (h : '#' ∉ line) :
    Token.ofLine p line = Token.ofWords ((words p line).map String.ofList) := by
  unfold Token.ofLine
  split
  · next hnil =>
    rw [← words_trim, hnil, words_nil]
    rfl
  · next hhash => exact absurd (mem_of_mem_trim (p := p) (by simp [hhash])) h
  · rw [words_trim]

lemma Token.ofLine_of_hash (hp : p '#' = false) {line : List Char} (h : line.head? = some '#') :
    Token.ofLine p line = none := by
  obtain ⟨cs, rfl⟩ := List.head?_eq_some_iff.mp h
  obtain ⟨ds, hds⟩ := List.head?_eq_some_iff.mp (trim_of_hash hp cs)
  simp [Token.ofLine, hds]

/-- The token of a line is the one of its words before a comment. -/
lemma readLine_eq_words (hp : p '#' = false) {line : List Char} (h : trim p line ≠ ['~', '~']) :
    (readLine p false line).1 = false ∧
      (readLine p false line).2.token =
        Token.ofWords ((words p (beforeHash line)).map String.ofList) := by
  rw [← words_beforeHash_trim hp]
  unfold readLine
  simp only [h, if_false, Bool.false_eq_true]
  split
  · refine ⟨rfl, ?_⟩
    have hkept : '#' ∉ trimEnd p (beforeHash (trim p line)) :=
      fun hm => notMem_beforeHash _ (mem_of_mem_trimEnd hm)
    change Token.ofLine p (trimEnd p (beforeHash (trim p line))) = _
    rw [Token.ofLine_of_notMem hkept, words_trimEnd]
  · next hplain =>
    refine ⟨rfl, ?_⟩
    change Token.ofLine p (trim p line) = _
    by_cases hhead : (trim p line).head? = some '#'
    · obtain ⟨cs, hcs⟩ := List.head?_eq_some_iff.mp hhead
      rw [Token.ofLine_of_hash hp hhead, hcs]
      simp [beforeHash, words_nil, Token.ofWords]
    · have hnone : '#' ∉ trim p line := by simpa [hhead] using hplain
      rw [Token.ofLine_of_notMem hnone, beforeHash_of_notMem hnone]

/-! ### Ways to end a line -/

lemma pieces_of_forall_not {brk : Char → Bool} {cs : List Char} (h : ∀ c ∈ cs, brk c = false)
    (hreturn : '\r' ∉ cs) : pieces brk cs = [cs] := by
  induction cs with
  | nil => rfl
  | cons c cs ih =>
    have hc : c ≠ '\r' := fun hc => hreturn (by simp [hc])
    have hcs := ih (fun d hd => h d (List.mem_cons_of_mem c hd))
      fun hm => hreturn (List.mem_cons_of_mem c hm)
    simp [pieces, hc, h c, hcs]

lemma sourceLines_of_forall_not {cs : List Char} (hne : cs ≠ [])
    (h : ∀ c ∈ cs, isLineBreak c = false) : sourceLines cs = [cs] := by
  have hreturn : '\r' ∉ cs := by
    intro hm
    exact absurd (h _ hm) (by decide)
  simp [sourceLines, pieces_of_forall_not h hreturn, hne]

lemma pieces_unifyBreaks (cs : List Char) :
    pieces isLineBreak (unifyBreaks cs) = pieces isLineBreak cs := by
  have hfeed : isLineBreak '\n' = true := by decide
  have hreturn : isLineBreak '\r' = true := by decide
  fun_induction unifyBreaks cs with
  | case1 => rfl
  | case2 cs ih => simp [pieces, hfeed, ih]
  | case3 c cs hcrlf ih =>
    by_cases hc : c = '\r'
    · subst hc
      simp [pieces, hfeed, hreturn, ih]
    · simp [pieces, hc, ih]

lemma sourceLines_unifyBreaks (cs : List Char) : sourceLines (unifyBreaks cs) = sourceLines cs := by
  simp only [sourceLines, pieces_unifyBreaks]

end Flowline
