import Mathlib.Data.List.Basic
import Mathlib.Tactic.Lemma
import Flowline.Editor.Token

/-!
One text, two readers.

The compiler and the editor cut a text into lines and words by different classes of characters. A line
is read through its own characters alone, so where the classes agree on a text, the readers do; the
only thing left between them is an empty line after a final line feed, which contributes nothing.
-/

namespace Flowline

open Text

/-! ### A line is read through its characters -/

section

variable {p q : Char → Bool}

lemma dropWhile_congr {cs : List Char} (h : ∀ c ∈ cs, p c = q c) :
    cs.dropWhile p = cs.dropWhile q := by
  induction cs with
  | nil => rfl
  | cons c cs ih =>
    rw [List.dropWhile_cons, List.dropWhile_cons, h c (by simp),
      ih fun d hd => h d (List.mem_cons_of_mem c hd)]

lemma trimEnd_congr {cs : List Char} (h : ∀ c ∈ cs, p c = q c) : trimEnd p cs = trimEnd q cs := by
  unfold trimEnd
  rw [dropWhile_congr fun c hc => h c (List.mem_reverse.mp hc)]

lemma mem_of_mem_trimEnd {cs : List Char} {c : Char} (h : c ∈ trimEnd p cs) : c ∈ cs := by
  have hc := (List.dropWhile_sublist p).subset (List.mem_reverse.mp h)
  exact List.mem_reverse.mp hc

lemma mem_of_mem_trim {cs : List Char} {c : Char} (h : c ∈ trim p cs) : c ∈ cs :=
  (List.dropWhile_sublist p).subset (mem_of_mem_trimEnd h)

lemma trim_congr {cs : List Char} (h : ∀ c ∈ cs, p c = q c) : trim p cs = trim q cs := by
  unfold trim trimStart
  rw [dropWhile_congr h]
  exact trimEnd_congr fun c hc => h c ((List.dropWhile_sublist q).subset hc)

lemma splitOnP_congr {cs : List Char} (h : ∀ c ∈ cs, p c = q c) :
    cs.splitOnP p = cs.splitOnP q := by
  induction cs with
  | nil => simp [List.splitOnP_nil]
  | cons c cs ih =>
    rw [List.splitOnP_cons_eq_if_modifyHead, List.splitOnP_cons_eq_if_modifyHead,
      h c (by simp), ih fun d hd => h d (List.mem_cons_of_mem c hd)]

lemma pieces_congr {cs : List Char} (h : ∀ c ∈ cs, p c = q c) : pieces p cs = pieces q cs := by
  fun_induction pieces p cs with
  | case1 => rfl
  | case2 cs ih => rw [pieces, ih fun c hc => h c (by simp [hc])]
  | case3 c cs hne hbrk ih =>
    rw [pieces.eq_3 _ _ _ hne, ih fun d hd => h d (List.mem_cons_of_mem c hd), if_pos]
    rwa [← h c (by simp)]
  | case4 c cs hne hbrk ih =>
    rw [pieces.eq_3 _ _ _ hne, ih fun d hd => h d (List.mem_cons_of_mem c hd), if_neg]
    rwa [← h c (by simp)]

lemma Token.ofLine_congr {line : List Char} (h : ∀ c ∈ line, p c = q c) :
    Token.ofLine p line = Token.ofLine q line := by
  have hwords : words p (trim q line) = words q (trim q line) := by
    unfold words
    rw [splitOnP_congr fun c hc => h c (mem_of_mem_trim hc)]
  unfold Token.ofLine
  rw [trim_congr h]
  generalize trim q line = cs at hwords
  split
  · rfl
  · rfl
  · rw [hwords]

lemma readLine_congr {line : List Char} (h : ∀ c ∈ line, p c = q c) (b : Bool) :
    readLine p b line = readLine q b line := by
  have htext : ∀ c ∈ trim q line, p c = q c := fun c hc => h c (mem_of_mem_trim hc)
  have hkept : ∀ c ∈ (trim q line).takeWhile (· != '#'), p c = q c :=
    fun c hc => htext c ((List.takeWhile_sublist _).subset hc)
  unfold readLine
  simp only [trim_congr h, trimEnd_congr hkept, Token.ofLine_congr htext,
    Token.ofLine_congr fun c hc => hkept c (mem_of_mem_trimEnd hc)]

lemma readLines_congr {lines : List (List Char)} (h : ∀ line ∈ lines, ∀ c ∈ line, p c = q c)
    (b : Bool) : readLines p b lines = readLines q b lines := by
  induction lines generalizing b with
  | nil => rfl
  | cons line lines ih =>
    rw [readLines_cons, readLines_cons, readLine_congr (h line (by simp)),
      ih fun l hl => h l (List.mem_cons_of_mem line hl)]

end

/-- The words of a token are its mark, if the line has one, its action and its arguments. -/
lemma Token.ofWords_eq_some_iff {ws : List String} {t : Token} :
    Token.ofWords ws = some t ↔
      (ws = t.state :: t.action :: t.args ∧ isLineState t.state = true) ∨
        (ws = t.action :: t.args ∧ isLineState t.action = false ∧ t.state = "~") := by
  constructor
  · intro h
    unfold Token.ofWords at h
    split at h
    · cases h
    · next w ws =>
      split_ifs at h with hw
      · split at h
        · cases h
        · obtain rfl := Option.some.inj h
          exact .inl ⟨rfl, hw⟩
      · obtain rfl := Option.some.inj h
        exact .inr ⟨rfl, by simpa using hw, rfl⟩
  · rintro (⟨rfl, hstate⟩ | ⟨rfl, haction, hstate⟩)
    · simp [Token.ofWords, hstate]
    · simp [Token.ofWords, haction, ← hstate]

lemma Token.state_of_ofWords {ws : List String} {t : Token} (h : Token.ofWords ws = some t) :
    t.state ∈ lineStates := by
  rcases Token.ofWords_eq_some_iff.mp h with ⟨-, hstate⟩ | ⟨-, -, hstate⟩
  · simpa [isLineState] using hstate
  · simp [hstate, lineStates]

lemma Token.state_of_ofLine {blank : Char → Bool} {line : List Char} {t : Token}
    (h : Token.ofLine blank line = some t) : t.state ∈ lineStates := by
  unfold Token.ofLine at h
  split at h
  · simp at h
  · simp at h
  · exact Token.state_of_ofWords h

/-! ### Empty lines -/

lemma readLine_nil (blank : Char → Bool) (b : Bool) : readLine blank b [] = (b, .nothing) := by
  cases b <;> rfl

lemma readLines_append (blank : Char → Bool) (b : Bool) (ls ms : List (List Char)) :
    readLines blank b (ls ++ ms) =
      readLines blank b ls ++
        readLines blank (ls.foldl (fun c l => (readLine blank c l).1) b) ms := by
  induction ls generalizing b with
  | nil => rfl
  | cons l ls ih => simp only [List.cons_append, readLines_cons, ih, List.foldl_cons]

/-- A line is read in the comment that the lines before it leave open. -/
lemma getElem?_readLines (blank : Char → Bool) (b : Bool) (ls : List (List Char)) (i : Nat) :
    (readLines blank b ls)[i]? = ls[i]?.map fun l =>
      (readLine blank ((ls.take i).foldl (fun c l => (readLine blank c l).1) b) l).2 := by
  induction ls generalizing b i with
  | nil => rfl
  | cons l ls ih =>
    cases i with
    | zero => rfl
    | succ i => simpa using ih _ i

lemma readLines_append_nil (blank : Char → Bool) (b : Bool) (ls : List (List Char)) :
    readLines blank b (ls ++ [[]]) = readLines blank b ls ++ [.nothing] := by
  rw [readLines_append, readLines_cons, readLine_nil, readLines_nil]

lemma numberedTokens_append_nothing (rs : List Reading) :
    numberedTokens (rs ++ [.nothing]) = numberedTokens rs := by
  simp [numberedTokens, List.zipIdx_append, Reading.nothing]

lemma cutLines_append_nothing (rs : List Reading) : cutLines (rs ++ [.nothing]) = cutLines rs := by
  simp [cutLines, List.zipIdx_append, Reading.nothing]

lemma pairwise_zipIdx {α : Type} (xs : List α) (n : Nat) :
    (xs.zipIdx n).Pairwise fun x y => x.2 < y.2 := by
  have h := List.pairwise_lt_range' (s := n) (n := xs.length)
  rw [← List.zipIdx_map_snd, List.pairwise_map] at h
  exact h

lemma pairwise_numberedTokens (rs : List Reading) :
    (numberedTokens rs).Pairwise fun x y => x.2 < y.2 := by
  refine (pairwise_zipIdx rs 1).filterMap _ fun x y hlt t ht u hu => ?_
  obtain ⟨t, -, rfl⟩ := Option.map_eq_some_iff.mp ht
  obtain ⟨u, -, rfl⟩ := Option.map_eq_some_iff.mp hu
  exact hlt

lemma numberedTokens_map_fst (rs : List Reading) :
    (numberedTokens rs).map Prod.fst = rs.filterMap Reading.token := by
  rw [numberedTokens, List.map_filterMap]
  conv_rhs => rw [← List.zipIdx_map_fst 1 rs, List.filterMap_map]
  refine List.filterMap_congr fun x _ => ?_
  simp [Function.comp_def]

lemma readLine_token (blank : Char → Bool) (b : Bool) (line : List Char) :
    (readLine blank b line).2.token = Token.ofLine blank (readLine blank b line).2.text := by
  unfold readLine
  simp only
  split_ifs <;> rfl

lemma token_of_mem_readLines {blank : Char → Bool} {b : Bool} {lines : List (List Char)}
    {r : Reading} (h : r ∈ readLines blank b lines) : r.token = Token.ofLine blank r.text := by
  induction lines generalizing b with
  | nil => simp at h
  | cons line lines ih =>
    rw [readLines_cons] at h
    rcases List.mem_cons.mp h with rfl | h'
    · exact readLine_token blank b line
    · exact ih h'

/-! ### Undisputed texts -/

/-- The characters that only one of the readers takes for a blank or a line break. -/
def disputed : List Nat :=
  [0x0B, 0x0C, 0x1C, 0x1D, 0x1E, 0x1F, 0x85, 0x2028, 0x2029, 0xFEFF]

/-- A text without such characters, in which a carriage return only stands before a line feed. -/
structure Undisputed (cs : List Char) : Prop where
  chars : ∀ c ∈ cs, c.toNat ∉ disputed
  returns : ∀ before after, cs = before ++ '\r' :: after → after.head? = some '\n'

lemma undisputed_nil : Undisputed [] where
  chars _ hc := by simp at hc
  returns before after h := by simp at h

lemma undisputed_cons_iff {c : Char} {cs : List Char} :
    Undisputed (c :: cs) ↔
      c.toNat ∉ disputed ∧ (c = '\r' → cs.head? = some '\n') ∧ Undisputed cs := by
  constructor
  · intro h
    refine ⟨h.chars c (by simp), ?_, ?_, ?_⟩
    · rintro rfl
      exact h.returns [] cs rfl
    · exact fun d hd => h.chars d (List.mem_cons_of_mem c hd)
    · intro before after hcs
      exact h.returns (c :: before) after (by rw [hcs, List.cons_append])
  · rintro ⟨hc, hr, h⟩
    refine ⟨fun d hd => ?_, fun before after hcs => ?_⟩
    · rcases List.mem_cons.mp hd with rfl | hd'
      · exact hc
      · exact h.chars d hd'
    · rcases before with _ | ⟨b, before⟩
      · obtain ⟨rfl, rfl⟩ : c = '\r' ∧ cs = after := by simpa using hcs
        exact hr rfl
      · exact h.returns before after (List.cons.inj hcs).2

lemma Undisputed.tail {c : Char} {cs : List Char} (h : Undisputed (c :: cs)) : Undisputed cs :=
  (undisputed_cons_iff.mp h).2.2

instance decidableUndisputed : (cs : List Char) → Decidable (Undisputed cs)
  | [] => isTrue undisputed_nil
  | _ :: cs =>
    have := decidableUndisputed cs
    decidable_of_iff _ undisputed_cons_iff.symm

lemma blank_eq_editorBlank {c : Char} (h : c.toNat ∉ disputed) : isBlank c = isEditorBlank c := by
  simp only [disputed, List.mem_cons, List.not_mem_nil, or_false, not_or] at h
  unfold isBlank isEditorBlank
  rcases hcommon : isCommonBlank c.toNat with _ | _
  · rw [Bool.eq_iff_iff]
    simp only [Bool.false_or, Bool.or_eq_true, Bool.and_eq_true, decide_eq_true_eq, beq_iff_eq]
    omega
  · simp

lemma lineBreak_iff {c : Char} (h : c.toNat ∉ disputed) :
    isLineBreak c = true ↔ c = '\n' ∨ c = '\r' := by
  simp only [disputed, List.mem_cons, List.not_mem_nil, or_false, not_or] at h
  have hfeed : c = '\n' ↔ c.toNat = 10 := Char.toNat_inj.symm
  have hreturn : c = '\r' ↔ c.toNat = 13 := Char.toNat_inj.symm
  rw [hfeed, hreturn]
  simp only [isLineBreak, Bool.or_eq_true, Bool.and_eq_true, decide_eq_true_eq, beq_iff_eq]
  omega

lemma pieces_eq {cs : List Char} (h : Undisputed cs) :
    pieces isLineBreak cs = pieces (· == '\n') cs := by
  fun_induction pieces isLineBreak cs with
  | case1 => rfl
  | case2 cs ih => rw [pieces, ih h.tail.tail]
  | case3 c cs hne hbrk ih =>
    -- a carriage return before anything else than a line feed is ruled out
    rcases (lineBreak_iff (h.chars c (by simp))).mp hbrk with rfl | rfl
    · rw [pieces.eq_3 _ _ _ hne, ih h.tail]
      rfl
    · have hfeed := h.returns [] cs rfl
      obtain ⟨rest, rfl⟩ := List.head?_eq_some_iff.mp hfeed
      exact absurd rfl (hne rest rfl)
  | case4 c cs hne hbrk ih =>
    have hc : ¬ (c == '\n') = true := by
      intro hc
      exact hbrk ((lineBreak_iff (h.chars c (by simp))).mpr (.inl (by simpa using hc)))
    rw [pieces.eq_3 _ _ _ hne, ih h.tail, if_neg hc]

lemma mem_of_mem_pieces {brk : Char → Bool} {cs line : List Char} (hl : line ∈ pieces brk cs) :
    ∀ c ∈ line, c ∈ cs := by
  fun_induction pieces brk cs generalizing line with
  | case1 => simp_all
  | case2 cs ih =>
    rcases List.mem_cons.mp hl with rfl | hl'
    · simp
    · intro c hc
      simp [ih hl' c hc]
  | case3 d cs hne hbrk ih =>
    rcases List.mem_cons.mp hl with rfl | hl'
    · simp
    · intro c hc
      simp [ih hl' c hc]
  | case4 d cs hne hbrk ih =>
    rcases hp : pieces brk cs with _ | ⟨first, others⟩
    · exact absurd hp (pieces_ne_nil brk cs)
    · rw [hp, List.modifyHead_cons] at hl
      rw [hp] at ih
      rcases List.mem_cons.mp hl with rfl | hl'
      · intro c hc
        rcases List.mem_cons.mp hc with rfl | hc'
        · simp
        · simp [ih (List.mem_cons_self ..) c hc']
      · intro c hc
        simp [ih (List.mem_cons_of_mem first hl') c hc]

lemma mem_of_mem_sourceLines {cs line : List Char} (hl : line ∈ sourceLines cs) :
    ∀ c ∈ line, c ∈ cs := by
  refine mem_of_mem_pieces (?_ : line ∈ pieces isLineBreak cs)
  unfold sourceLines at hl
  simp only at hl
  split_ifs at hl
  · exact List.dropLast_subset _ hl
  · exact hl

/-- The lines of a source are the pieces of it, but for an empty one at the end. -/
lemma pieces_cases (cs : List Char) :
    pieces isLineBreak cs = sourceLines cs ∨ pieces isLineBreak cs = sourceLines cs ++ [[]] := by
  unfold sourceLines
  simp only
  split_ifs with hlast
  · right
    obtain ⟨ls, hls⟩ := List.getLast?_eq_some_iff.mp (beq_iff_eq.mp hlast)
    rw [hls, List.dropLast_concat]
  · exact .inl rfl

/-- The editor may see one more line than the compiler, an empty one at the end. -/
lemma editorLines_cases {cs : List Char} (h : Undisputed cs) :
    editorLines cs = sourceLines cs ∨ editorLines cs = sourceLines cs ++ [[]] := by
  unfold editorLines
  rw [← pieces_eq h]
  exact pieces_cases cs

lemma readLines_sourceLines {source : String} (h : ∀ c ∈ source.toList, c.toNat ∉ disputed) :
    readLines isEditorBlank false (sourceLines source.toList) = readSource source := by
  refine (readLines_congr (fun line hl c hc => ?_) false).symm
  exact blank_eq_editorBlank (h c (mem_of_mem_sourceLines hl c hc))

/-- What the editor reads of an undisputed text: what the compiler reads, and perhaps nothing. -/
lemma readings_cases {source : String} (h : Undisputed source.toList) :
    Editor.readings source.toList = readSource source ∨
      Editor.readings source.toList = readSource source ++ [.nothing] := by
  have hread := readLines_sourceLines h.chars
  unfold Editor.readings
  rcases editorLines_cases h with hl | hl
  · rw [hl, hread]
    exact .inl rfl
  · rw [hl, readLines_append_nil, hread]
    exact .inr rfl

theorem tokens_eq_tokenize {source : String} (h : Undisputed source.toList) :
    (Editor.tokens source.toList).map (fun t => (t.token, t.line)) = tokenize source := by
  have hnumbered : (Editor.tokens source.toList).map (fun t => (t.token, t.line)) =
      numberedTokens (Editor.readings source.toList) := by
    unfold Editor.tokens numberedTokens
    rw [List.map_filterMap]
    refine List.filterMap_congr fun x hx => ?_
    have htoken := token_of_mem_readLines (List.fst_mem_of_mem_zipIdx hx)
    simp only [Editor.PlacedToken.ofLine, htoken, Option.map_map]
    rfl
  rw [hnumbered]
  unfold tokenize
  rcases readings_cases h with hr | hr
  · rw [hr]
  · rw [hr, numberedTokens_append_nothing]

theorem cutLines_readings {source : String} (h : Undisputed source.toList) :
    cutLines (Editor.readings source.toList) = cutLines (readSource source) := by
  rcases readings_cases h with hr | hr
  · rw [hr]
  · rw [hr, cutLines_append_nothing]

lemma state_of_mem_tokenize {source : String} {x : Token × Nat} (h : x ∈ tokenize source) :
    x.1.state ∈ lineStates := by
  obtain ⟨y, hy, hx⟩ := List.mem_filterMap.mp h
  obtain ⟨t, ht, rfl⟩ := Option.map_eq_some_iff.mp hx
  rw [token_of_mem_readLines (List.fst_mem_of_mem_zipIdx hy)] at ht
  exact Token.state_of_ofLine ht

end Flowline
