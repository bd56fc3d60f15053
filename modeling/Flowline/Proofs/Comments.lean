import Mathlib.Algebra.Ring.Parity
import Flowline.Proofs.Concatenation

/-!
Comments leave no trace.

A line with a `#` is read through what stands before the first one, and a line between two fences is
not read at all. So two sources whose lines differ in such places only are fenced alike, and every
line of the one gives the token and the warning that the line of the other gives.
-/

namespace Flowline

open Text

/-- The lines have the same text up to their first hash, and each has one. -/
def SameToHash (l m : List Char) : Prop :=
  '#' ∈ l ∧ '#' ∈ m ∧ beforeHash l = beforeHash m

instance (l m : List Char) : Decidable (SameToHash l m) :=
  inferInstanceAs (Decidable ('#' ∈ l ∧ '#' ∈ m ∧ beforeHash l = beforeHash m))

def fencesBefore (ls : List (List Char)) (i : Nat) : Nat := (ls.take i).countP isFence

/-- Sources, as lists of lines, that differ in comments only. -/
structure DifferInComments (ls ms : List (List Char)) : Prop where
  length : ls.length = ms.length
  lines : ∀ i l m, ls[i]? = some l → ms[i]? = some m →
    l = m ∨ SameToHash l m ∨ (Odd (fencesBefore ls i) ∧ isFence l = false ∧ isFence m = false)

/-! ### A line with a hash -/

section

variable {p : Char → Bool}

/-- Where a line with a hash begins is settled by what stands before the hash. -/
lemma head?_trim_hash (hp : p '#' = false) {l : List Char} (h : '#' ∈ l) :
    (trim p l).head? = (trimStart p (beforeHash l)).head?.or (some '#') := by
  obtain ⟨rest, hl⟩ := beforeHash_append_hash h
  rw [head?_trim]
  conv_lhs => rw [hl]
  unfold trimStart
  rw [List.dropWhile_append]
  split_ifs with hempty
  · -- only blanks stand before the hash
    rw [List.isEmpty_iff.mp hempty]
    simp [hp]
  · rw [List.head?_append]
    simp

end

/-! ### What a line passes on -/

/-- What is taken from the reading of a line: its token, and whether to warn of it. -/
def Reading.passed (r : Reading) : Option Token × Bool := (r.token, r.cutComment)

lemma numberedTokens_eq_passed (rs : List Reading) :
    numberedTokens rs =
      ((rs.map Reading.passed).zipIdx 1).filterMap fun (r, n) => r.1.map (·, n) := by
  rw [List.zipIdx_map, List.filterMap_map]
  rfl

lemma cutLines_eq_passed (rs : List Reading) :
    cutLines rs =
      ((rs.map Reading.passed).zipIdx 1).filterMap fun (r, n) => if r.2 then some n else none := by
  rw [List.zipIdx_map, List.filterMap_map]
  rfl

lemma readLine_inside {l : List Char} (h : isFence l = false) :
    readLine isBlank true l = (true, .nothing) := by
  have hne : trim isBlank l ≠ ['~', '~'] := by simpa [isFence] using h
  simp [readLine, hne]

/-- A line with a hash is no fence, and passes on what the text before the hash says. -/
lemma readLine_hash (b : Bool) {l : List Char} (h : '#' ∈ l) :
    isFence l = false ∧
      (readLine isBlank b l).2.passed =
        if b then (none, false)
        else (Token.ofWords ((words isBlank (beforeHash l)).map String.ofList),
          (trimStart isBlank (beforeHash l)).head?.or (some '#') != some '#') := by
  have hblank : isBlank '#' = false := by decide
  have hmem : '#' ∈ trim isBlank l := mem_trim_of_not h hblank
  have hne : trim isBlank l ≠ ['~', '~'] := by
    intro heq
    simp [heq] at hmem
  have hfence : isFence l = false := by simpa [isFence] using hne
  refine ⟨hfence, ?_⟩
  cases b with
  | true =>
    rw [readLine_inside hfence]
    rfl
  | false =>
    refine Prod.ext (readLine_eq_words hblank hne).2 ?_
    rw [← head?_trim_hash hblank h]
    -- there is a hash, so the line is warned of unless it begins with it
    simp only [Reading.passed, readLine, hne, if_false, Bool.false_eq_true]
    split_ifs with hcut
    · simpa using (Bool.and_eq_true_iff.mp hcut).2
    · simpa [hmem] using hcut

/-- Lines that differ in comments only are fenced alike and pass on the same. -/
lemma passed_of_alike {b : Bool} {l m : List Char}
    (h : l = m ∨ SameToHash l m ∨ (b = true ∧ isFence l = false ∧ isFence m = false)) :
    isFence l = isFence m ∧
      (readLine isBlank b l).2.passed = (readLine isBlank b m).2.passed := by
  rcases h with rfl | ⟨hl, hm, hsame⟩ | ⟨rfl, hl, hm⟩
  · exact ⟨rfl, rfl⟩
  · obtain ⟨hfence, hpassed⟩ := readLine_hash b hl
    obtain ⟨hfence', hpassed'⟩ := readLine_hash b hm
    rw [hfence, hfence', hpassed, hpassed', hsame]
    exact ⟨rfl, rfl⟩
  · rw [readLine_inside hl, readLine_inside hm]
    exact ⟨hl.trans hm.symm, rfl⟩

/-! ### All lines -/

/-- A line is read in the comment that the fences before it leave open. -/
lemma getElem?_readLines_fences (b : Bool) (ls : List (List Char)) (i : Nat) :
    (readLines isBlank b ls)[i]? =
      ls[i]?.map fun l =>
        (readLine isBlank (b ^^ decide (¬ Even (fencesBefore ls i))) l).2 := by
  rw [getElem?_readLines, foldl_readLine]
  rfl

variable {ls ms : List (List Char)}

lemma DifferInComments.inside (h : DifferInComments ls ms) {i : Nat} {l m : List Char}
    (hl : ls[i]? = some l) (hm : ms[i]? = some m) :
    l = m ∨ SameToHash l m ∨
      (decide (¬ Even (fencesBefore ls i)) = true ∧ isFence l = false ∧ isFence m = false) := by
  refine (h.lines i l m hl hm).imp_right (Or.imp_right fun ⟨hodd, hfences⟩ => ⟨?_, hfences⟩)
  exact decide_eq_true (Nat.not_even_iff_odd.mpr hodd)

lemma DifferInComments.map_isFence (h : DifferInComments ls ms) :
    ls.map isFence = ms.map isFence := by
  refine List.ext_getElem (by simpa using h.length) fun i hl hm => ?_
  rw [List.length_map] at hl hm
  rw [List.getElem_map, List.getElem_map]
  have hi := h.inside (List.getElem?_eq_getElem hl) (List.getElem?_eq_getElem hm)
  exact (passed_of_alike hi).1

lemma DifferInComments.fencesBefore_eq (h : DifferInComments ls ms) (i : Nat) :
    fencesBefore ls i = fencesBefore ms i := by
  have hcount : ∀ ks : List (List Char),
      fencesBefore ks i = ((ks.map isFence).take i).count true := by
    intro ks
    rw [← List.map_take, List.count_eq_countP, List.countP_map, fencesBefore]
    exact List.countP_congr fun k _ => by simp
  rw [hcount, hcount, h.map_isFence]

lemma DifferInComments.passed_readLines (h : DifferInComments ls ms) :
    (readLines isBlank false ls).map Reading.passed =
      (readLines isBlank false ms).map Reading.passed := by
  refine List.ext_getElem? fun i => ?_
  rw [List.getElem?_map, List.getElem?_map, getElem?_readLines_fences, getElem?_readLines_fences,
    ← h.fencesBefore_eq i, Bool.false_xor]
  by_cases hi : i < ls.length
  · have hl := List.getElem?_eq_getElem hi
    have hm := List.getElem?_eq_getElem (h.length ▸ hi)
    rw [hl, hm]
    exact congrArg some (passed_of_alike (h.inside hl hm)).2
  · rw [List.getElem?_eq_none (by omega), List.getElem?_eq_none (by rw [← h.length]; omega)]

/-- **Comments leave no trace**: sources whose lines differ in comments only have the same tokens on
the same lines and give the same warnings. -/
theorem tokenize_of_differInComments (s t : String)
    (h : DifferInComments (sourceLines s.toList) (sourceLines t.toList)) :
    tokenize s = tokenize t ∧ sourceWarnings s = sourceWarnings t := by
  have hpassed : (readSource s).map Reading.passed = (readSource t).map Reading.passed :=
    h.passed_readLines
  constructor
  · rw [tokenize, tokenize, numberedTokens_eq_passed, numberedTokens_eq_passed, hpassed]
  · rw [sourceWarnings, sourceWarnings, cutLines_eq_passed, cutLines_eq_passed, hpassed]

def notedSource : String :=
  "若 x: # a\n~~\n旧 y\n 甲 -> 乙\n~~ \n# one\n印 y#z\n空"

def renotedSource : String :=
  "若 x: # b: ~~\n~~\n~~ ~~\n\n~~ \n# two # 3\n印 y#\n空"

lemma notedSource_differ :
    DifferInComments (sourceLines notedSource.toList) (sourceLines renotedSource.toList) := by
  have hlength : (sourceLines notedSource.toList).length = 8 := by decide +kernel
  have hall : ∀ i < 8,
      (sourceLines notedSource.toList)[i]? = (sourceLines renotedSource.toList)[i]? ∨
        SameToHash ((sourceLines notedSource.toList)[i]?.getD [])
          ((sourceLines renotedSource.toList)[i]?.getD []) ∨
        (Odd (fencesBefore (sourceLines notedSource.toList) i) ∧
          isFence ((sourceLines notedSource.toList)[i]?.getD []) = false ∧
          isFence ((sourceLines renotedSource.toList)[i]?.getD []) = false) := by decide +kernel
  refine ⟨by decide +kernel, fun i l m hl hm => ?_⟩
  have hi : i < 8 := by
    rw [← hlength]
    exact (List.getElem?_eq_some_iff.mp hl).1
  have hline := hall i hi
  rw [hl, hm] at hline
  simpa using hline

theorem notedSource_tokenized :
    DifferInComments (sourceLines notedSource.toList) (sourceLines renotedSource.toList) ∧
      tokenize renotedSource =
        [(⟨"若", ["x:"], "~"⟩, 1), (⟨"印", ["y"], "~"⟩, 7), (⟨"空", [], "~"⟩, 8)] ∧
      sourceWarnings renotedSource = [inlineCommentWarning 1, inlineCommentWarning 7] := by
  have htokens : tokenize notedSource =
      [(⟨"若", ["x:"], "~"⟩, 1), (⟨"印", ["y"], "~"⟩, 7), (⟨"空", [], "~"⟩, 8)] := by
    decide +kernel
  have hwarnings : sourceWarnings notedSource =
      [inlineCommentWarning 1, inlineCommentWarning 7] := by decide +kernel
  obtain ⟨hsame, hwarned⟩ :=
    tokenize_of_differInComments notedSource renotedSource notedSource_differ
  exact ⟨notedSource_differ, hsame ▸ htokens, hwarned ▸ hwarnings⟩

end Flowline
