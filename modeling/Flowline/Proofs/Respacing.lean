import Flowline.Proofs.Comments
import Flowline.Proofs.Conditions
import Flowline.Proofs.Digits

/-!
A line is read through its words.

How many blanks stand between the words of a line, and of which kind, makes no difference: the words
alone say whether the line is a fence, whether a comment is cut off and which token is left. So a source
whose lines keep their words keeps its tokens and its warnings. The tokens themselves are made of words,
one token a line, in the order of the lines.
-/

namespace Flowline

open Text

/-! ### What the words of a line say -/

/-- The words before the first hash, of which the last may have been cut by it. -/
def wordsBeforeHash : List (List Char) → List (List Char)
  | [] => []
  | w :: ws =>
    if '#' ∈ w then [beforeHash w].filter fun v => !v.isEmpty else w :: wordsBeforeHash ws

/-- What a line of the words passes on, and whether a block comment is open after it. -/
def readWords (inComment : Bool) (ws : List (List Char)) : Bool × Option Token × Bool :=
  if ws = [['~', '~']] then (!inComment, none, false)
  else if inComment then (true, none, false)
  else (false, Token.ofWords ((wordsBeforeHash ws).map String.ofList),
    ws.any (·.contains '#') && ws.head?.bind List.head? != some '#')

section

variable {p : Char → Bool} {cs w : List Char}

lemma exists_mem_words {c : Char} (hc : c ∈ cs) (hp : p c = false) : ∃ w ∈ words p cs, c ∈ w := by
  induction cs with
  | nil => cases hc
  | cons d cs ih =>
    by_cases hd : p d = true
    · have hne : c ≠ d := fun heq => by simp [heq, hd] at hp
      rw [words_cons_of_pos hd]
      exact ih (List.mem_of_ne_of_mem hne hc)
    · obtain ⟨first, others, hsplit⟩ := List.exists_cons_of_ne_nil (List.splitOnP_ne_nil p cs)
      have hwords : words p (d :: cs) = (d :: first) :: others.filter fun w => !w.isEmpty := by
        simp [words, List.splitOnP_cons_eq_if_modifyHead, hd, hsplit]
      rw [hwords]
      rcases List.mem_cons.mp hc with rfl | hc
      · exact ⟨c :: first, List.mem_cons_self, List.mem_cons_self⟩
      · obtain ⟨w, hw, hcw⟩ := ih hc
        rw [words, hsplit] at hw
        obtain ⟨hmem, hne⟩ := List.mem_filter.mp hw
        rcases List.mem_cons.mp hmem with rfl | hmem
        · exact ⟨d :: w, List.mem_cons_self, List.mem_cons_of_mem d hcw⟩
        · exact ⟨w, List.mem_cons_of_mem _ (List.mem_filter.mpr ⟨hmem, hne⟩), hcw⟩

lemma words_eq_nil_iff : words p cs = [] ↔ ∀ c ∈ cs, p c = true := by
  refine ⟨fun h c hc => ?_, words_of_blank⟩
  by_contra hp
  obtain ⟨w, hw, -⟩ := exists_mem_words hc (by simpa using hp)
  rw [h] at hw
  cases hw

lemma trim_eq_iff_words (hne : w ≠ []) (hw : ∀ c ∈ w, p c = false) :
    trim p cs = w ↔ words p cs = [w] := by
  constructor
  · rintro rfl
    rw [← words_trim]
    exact words_of_forall_not hne hw
  · intro h
    obtain ⟨bs, rest, rfl, hbs, -, -, -, hrest⟩ := split_of_words_eq_cons h
    rw [trim_append_of_blank _ (words_eq_nil_iff.mp hrest), trim_blank_append hbs,
      trim_of_forall_not hw]

lemma mem_iff_mem_words {c : Char} (hp : p c = false) : c ∈ cs ↔ ∃ w ∈ words p cs, c ∈ w :=
  ⟨fun hc => exists_mem_words hc hp, fun ⟨_, hw, hc⟩ => ((mem_words hw).2 c hc).2⟩

/-- The first character that is no blank begins the first word. -/
lemma head?_trim_eq_words (p : Char → Bool) (cs : List Char) :
    (trim p cs).head? = (words p cs).head?.bind List.head? := by
  rw [head?_trim]
  rcases hwords : words p cs with _ | ⟨w, ws⟩
  · have hnil : trimStart p cs = [] := List.dropWhile_eq_nil_iff.mpr (words_eq_nil_iff.mp hwords)
    rw [hnil]
    rfl
  · obtain ⟨bs, rest, rfl, hbs, hne, hw, -, -⟩ := split_of_words_eq_cons hwords
    obtain ⟨c, w, rfl⟩ := List.exists_cons_of_ne_nil hne
    have hc : ¬ p c = true := by simp [hw c]
    simp [trimStart, List.dropWhile_append_of_pos hbs, List.dropWhile_cons_of_neg hc]

lemma beforeHash_append_of_notMem (h : '#' ∉ w) (rest : List Char) :
    beforeHash (w ++ rest) = w ++ beforeHash rest := by
  refine List.takeWhile_append_of_pos fun c hc => ?_
  rw [bne_iff_ne]
  rintro rfl
  exact h hc

lemma beforeHash_append_of_mem (h : '#' ∈ w) (rest : List Char) :
    beforeHash (w ++ rest) = beforeHash w := by
  obtain ⟨more, hmore⟩ := beforeHash_append_hash h
  conv_lhs => rw [hmore, List.append_assoc, beforeHash_append_of_notMem (notMem_beforeHash w)]
  simp [beforeHash]

lemma head?_beforeHash {q : Char → Prop} (h : ∀ c ∈ cs.head?, q c) :
    ∀ c ∈ (beforeHash cs).head?, q c := by
  intro c hc
  rcases cs with _ | ⟨d, cs⟩
  · cases hc
  · by_cases hd : d = '#'
    · simp [beforeHash, hd] at hc
    · refine h c ?_
      simpa [beforeHash, hd] using hc

/-- Which words stand before the hash, and what is left of the word that has it, can be seen from the
words of the line. -/
lemma words_beforeHash (hp : p '#' = false) (cs : List Char) :
    words p (beforeHash cs) = wordsBeforeHash (words p cs) := by
  generalize hws : words p cs = ws
  induction ws generalizing cs with
  | nil =>
    rw [wordsBeforeHash, words_eq_nil_iff]
    intro c hc
    exact words_eq_nil_iff.mp hws c (List.takeWhile_subset _ hc)
  | cons w ws ih =>
    obtain ⟨bs, rest, rfl, hbs, hne, hw, hrest, hrestWords⟩ := split_of_words_eq_cons hws
    have hbefore : '#' ∉ bs := fun hm => by simp [hbs '#' hm] at hp
    rw [List.append_assoc, beforeHash_append_of_notMem hbefore, words_blank_append hbs,
      wordsBeforeHash]
    split_ifs with hmem
    · rw [beforeHash_append_of_mem hmem]
      by_cases hnil : beforeHash w = []
      · simp [hnil, words_nil]
      · rw [words_of_forall_not hnil fun c hc => hw c (List.takeWhile_subset _ hc)]
        simp [hnil]
    · rw [beforeHash_append_of_notMem hmem, words_word_append hne hw (head?_beforeHash hrest),
        ih rest hrestWords]

lemma cutComment_readLine {line : List Char} (h : trim isBlank line ≠ ['~', '~']) :
    (readLine isBlank false line).2.cutComment =
      ((trim isBlank line).contains '#' && (trim isBlank line).head? != some '#') := by
  simp only [readLine, h, if_false, Bool.false_eq_true]
  split_ifs with hcut
  · exact hcut.symm
  · simpa using hcut

lemma readLine_eq_readWords (b : Bool) (line : List Char) :
    ((readLine isBlank b line).1, (readLine isBlank b line).2.passed) =
      readWords b (words isBlank line) := by
  have hfence : trim isBlank line = ['~', '~'] ↔ words isBlank line = [['~', '~']] :=
    trim_eq_iff_words (by decide) (forall_mem_of_all (by decide))
  by_cases hline : trim isBlank line = ['~', '~']
  · rw [readWords, if_pos (hfence.mp hline)]
    simp [readLine, hline, Reading.passed, Reading.nothing]
  · rw [readWords, if_neg (mt hfence.mpr hline)]
    cases b with
    | true => simp [readLine, hline, Reading.passed, Reading.nothing]
    | false =>
      have hblank : isBlank '#' = false := by decide
      obtain ⟨hopen, htoken⟩ := readLine_eq_words hblank hline
      have hhash : (trim isBlank line).contains '#' =
          (words isBlank line).any (·.contains '#') := by
        rw [Bool.eq_iff_iff, List.contains_iff_mem, mem_iff_mem_words hblank, words_trim]
        simp
      rw [hopen, if_neg (by simp), Reading.passed, htoken, words_beforeHash hblank,
        cutComment_readLine hline, hhash, head?_trim_eq_words]

end

/-! ### Sources whose lines have the same words -/

lemma passed_readLines_of_words {ls ms : List (List Char)}
    (h : ls.map (words isBlank) = ms.map (words isBlank)) (b : Bool) :
    (readLines isBlank b ls).map Reading.passed = (readLines isBlank b ms).map Reading.passed := by
  induction ls generalizing ms b with
  | nil =>
    obtain rfl : ms = [] := List.map_eq_nil_iff.mp h.symm
    rfl
  | cons l ls ih =>
    obtain ⟨m, ms, rfl⟩ : ∃ m ms', ms = m :: ms' := by
      rcases ms with _ | ⟨m, ms⟩
      · cases h
      · exact ⟨m, ms, rfl⟩
    obtain ⟨hl, hls⟩ := List.cons.inj h
    have hread : ((readLine isBlank b l).1, (readLine isBlank b l).2.passed) =
        ((readLine isBlank b m).1, (readLine isBlank b m).2.passed) := by
      rw [readLine_eq_readWords, readLine_eq_readWords, hl]
    obtain ⟨hopen, hpassed⟩ := Prod.mk.inj hread
    rw [readLines_cons, readLines_cons, List.map_cons, List.map_cons, hpassed, hopen, ih hls]

lemma readLines_pieces (source : String) :
    numberedTokens (readLines isBlank false (pieces isLineBreak source.toList)) = tokenize source ∧
      (cutLines (readLines isBlank false (pieces isLineBreak source.toList))).map
        inlineCommentWarning = sourceWarnings source := by
  rcases pieces_cases source.toList with h | h
  · rw [h]
    exact ⟨rfl, rfl⟩
  · rw [h, readLines_append_nil, numberedTokens_append_nothing, cutLines_append_nothing]
    exact ⟨rfl, rfl⟩

/-- A line with one space between each two of its words. -/
def singleSpaced (line : List Char) : List Char := [' '].intercalate (words isBlank line)

lemma words_singleSpaced (line : List Char) : words isBlank (singleSpaced line) = words isBlank line :=
  words_intercalate fun _ hw => ⟨(mem_words hw).1, fun c hc => ((mem_words hw).2 c hc).1⟩

lemma map_words_singleSpaced (ls : List (List Char)) :
    (ls.map singleSpaced).map (words isBlank) = ls.map (words isBlank) := by
  rw [List.map_map]
  exact List.map_congr_left fun l _ => words_singleSpaced l

/-- The second source is the first with all its lines single-spaced. It has as many lines, or as many line
breaks: the two numbers go apart where the last line is blank and no break ends it. -/
def Respaced (s t : String) : Prop :=
  sourceLines t.toList = (sourceLines s.toList).map singleSpaced ∨
    pieces isLineBreak t.toList = (pieces isLineBreak s.toList).map singleSpaced

lemma Respaced.tokenize_eq {s t : String} (h : Respaced s t) :
    tokenize t = tokenize s ∧ sourceWarnings t = sourceWarnings s := by
  rcases h with h | h
  · have hpassed : (readSource t).map Reading.passed = (readSource s).map Reading.passed :=
      passed_readLines_of_words (by rw [h, map_words_singleSpaced]) false
    simp only [tokenize, sourceWarnings, numberedTokens_eq_passed, cutLines_eq_passed, hpassed,
      and_self]
  · have hpassed := passed_readLines_of_words
      (show (pieces isLineBreak t.toList).map (words isBlank) =
        (pieces isLineBreak s.toList).map (words isBlank) by rw [h, map_words_singleSpaced]) false
    obtain ⟨htokens, hwarnings⟩ := readLines_pieces t
    obtain ⟨htokens', hwarnings'⟩ := readLines_pieces s
    rw [← htokens, ← hwarnings, ← htokens', ← hwarnings']
    simp only [numberedTokens_eq_passed, cutLines_eq_passed, hpassed, and_self]

/-- The source with all its lines single-spaced, and a line feed for every line break. -/
def respacedSource (s : String) : String :=
  String.ofList (joinWith ['\n'] ((pieces isLineBreak s.toList).map singleSpaced))

lemma mem_singleSpaced {line : List Char} {c : Char} (h : c ∈ singleSpaced line) :
    c = ' ' ∨ isBlank c = false := by
  have hword : ∀ w ∈ words isBlank line, c ∈ w → isBlank c = false := fun w hw hc =>
    ((mem_words hw).2 c hc).1
  unfold singleSpaced at h
  rcases hwords : words isBlank line with _ | ⟨w, ws⟩
  · simp [hwords] at h
  · rw [hwords, List.forall_mem_cons] at hword
    rw [hwords, intercalate_cons_eq_trail, trail, List.mem_append, List.mem_flatMap] at h
    rcases h with h | ⟨v, hv, h⟩
    · exact .inr (hword.1 h)
    · exact (List.mem_cons.mp h).imp_right (hword.2 v hv)

lemma not_isLineBreak_of_mem_singleSpaced {line : List Char} {c : Char}
    (h : c ∈ singleSpaced line) : isLineBreak c = false := by
  rcases mem_singleSpaced h with rfl | hblank
  · decide
  · by_contra hbreak
    rw [isBlank_of_isLineBreak (by simpa using hbreak)] at hblank
    cases hblank

lemma respaced_respacedSource (s : String) : Respaced s (respacedSource s) := by
  refine .inr ?_
  rw [respacedSource, String.toList_ofList]
  refine Editor.pieces_joinWith (by decide) (by simpa using pieces_ne_nil _ _) fun l hl => ?_
  obtain ⟨line, -, rfl⟩ := List.mem_map.mp hl
  refine ⟨fun c hc => not_isLineBreak_of_mem_singleSpaced hc, fun hc => ?_⟩
  exact absurd (not_isLineBreak_of_mem_singleSpaced hc) (by decide)

/-- **Tokens depend on the words of each line only.** A source whose lines are single-spaced, in
whichever way they end, has the same tokens on the same lines and gives the same warnings. Each token
has a mark, and an action and arguments that are words: not empty, without a blank and without a hash.
No two tokens stand on one line, and they come in the order of the lines. -/
theorem tokenize_respaced (s : String) :
    Respaced s (respacedSource s) ∧
      (∀ t, Respaced s t → tokenize t = tokenize s ∧ sourceWarnings t = sourceWarnings s) ∧
      (∀ x ∈ tokenize s,
        x.1.state ∈ ["~", ">", "<", "!", "?"] ∧ IsWord x.1.action ∧ ∀ w ∈ x.1.args, IsWord w) ∧
      (tokenize s).Pairwise fun x y => x.2 < y.2 := by
  refine ⟨respaced_respacedSource s, fun t h => h.tokenize_eq, fun x hx => ?_,
    pairwise_numberedTokens _⟩
  refine ⟨state_of_mem_tokenize hx, ?_⟩
  obtain ⟨y, hy, hxy⟩ := List.mem_filterMap.mp hx
  obtain ⟨t, ht, rfl⟩ := Option.map_eq_some_iff.mp hxy
  exact readLines_isWord (List.fst_mem_of_mem_zipIdx hy) ht

/-- A source with blanks of many kinds, four kinds of line breaks and a blank last line. -/
def unevenSource : String :=
  " >\t印  a\u00a0b#c  d\r\n\u3000~~ \x0c 旧  y\u2028~~\x1f\n ! \u2003x:\n\t"

/-- The same source single-spaced, with its line breaks. -/
def evenSource : String := "> 印 a b#c d\r\n~~\x0c旧 y\u2028~~\n! x:\n"

theorem unevenSource_respaced :
    Respaced unevenSource evenSource ∧
      tokenize evenSource = [(⟨"印", ["a", "b"], ">"⟩, 1), (⟨"x:", [], "!"⟩, 5)] ∧
      sourceWarnings evenSource = [inlineCommentWarning 1] := by
  have hrespaced : Respaced unevenSource evenSource := .inr (by decide +kernel)
  have htokens : tokenize unevenSource =
      [(⟨"印", ["a", "b"], ">"⟩, 1), (⟨"x:", [], "!"⟩, 5)] := by decide +kernel
  have hwarnings : sourceWarnings unevenSource = [inlineCommentWarning 1] := by decide +kernel
  obtain ⟨-, hall, -⟩ := tokenize_respaced unevenSource
  obtain ⟨hsame, hwarned⟩ := hall evenSource hrespaced
  exact ⟨hrespaced, hsame.trans htokens, hwarned.trans hwarnings⟩

end Flowline
