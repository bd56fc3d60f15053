import Mathlib.Data.List.Basic
import Mathlib.Tactic.IntervalCases
import Mathlib.Tactic.Lemma
import Flowline.Emit.Operand
import Flowline.Proofs.Lexing

/-!
Words between double quotes.

A value that is neither a constant nor a number nor a name is written between double quotes as it
stands. Whether the program then holds a text with the value of the word depends on the word: a
double quote ends the text, and a backslash may begin an escape. Every escape writes less than it
takes, so a text that decodes to itself has none; this is why the words that keep their value can be
told exactly.
-/

namespace Flowline

open Script

def escapeLetters : List Char :=
  ['\\', '\'', '"', '\n', 'x', 'u', 'U', 'N', '0', '1', '2', '3', '4', '5', '6', '7',
    'a', 'b', 'f', 'n', 'r', 't', 'v']

/-- Text that stands for itself between double quotes: no quote, and no backslash that begins an
escape or comes last. -/
inductive Verbatim : List Char → Prop
  | nil : Verbatim []
  | char {c : Char} {cs : List Char} (hquote : c ≠ '"') (hslash : c ≠ '\\') (hbreak : c ≠ '\n')
      (h : Verbatim cs) : Verbatim (c :: cs)
  | backslash {c : Char} {cs : List Char} (hc : c ∉ escapeLetters) (h : Verbatim cs) :
      Verbatim ('\\' :: c :: cs)

/-- The text is one literal between double quotes, from its first character to its last, and has the
given value. -/
def IsLiteralOf (text value : String) : Prop :=
  ∃ cs, text.toList = '"' :: cs ∧
    ∀ line, cut line '"' cs = .ok { lexeme := .text value, breaks := 0, rest := [] }

/-! ### Escapes -/

lemma mem_escapeLetters_of_isOctal {c : Char} (h : isOctal c = true) : c ∈ escapeLetters := by
  simp only [isOctal, Bool.and_eq_true, decide_eq_true_eq] at h
  have hlow : 48 ≤ c.toNat := h.1
  have hhigh : c.toNat ≤ 55 := h.2
  have hc := Char.ofNat_toNat c
  interval_cases hn : c.toNat <;> rw [← hc] <;> decide

lemma length_hexEscape {start width n : Nat} {form : String} {cs value : List Char}
    (h : hexEscape start width form cs = .ok (value, n)) :
    value.length = 1 ∧ n = width + 1 ∧ width ≤ cs.length := by
  unfold hexEscape at h
  simp only at h
  split_ifs at h with hshort hsmall
  obtain ⟨rfl, rfl⟩ := Prod.mk.inj (Except.ok.inj h)
  refine ⟨rfl, rfl, ?_⟩
  calc width ≤ _ := Nat.not_lt.mp hshort
    _ ≤ (((cs.take width).map hexValue?).takeWhile Option.isSome).length :=
      List.length_filterMap_le _ _
    _ ≤ ((cs.take width).map hexValue?).length := (List.takeWhile_sublist _).length_le
    _ ≤ cs.length := by
      rw [List.length_map, List.length_take]
      exact Nat.min_le_right _ _

/-- A backslash before any other character stands for itself. -/
lemma escape_of_notMem {start : Nat} {c : Char} {cs : List Char} (h : c ∉ escapeLetters) :
    escape start (c :: cs) = .ok (['\\', c], 1) := by
  have hoctal : isOctal c = false := by
    rw [← Bool.not_eq_true]
    exact fun ho => h (mem_escapeLetters_of_isOctal ho)
  simp only [escapeLetters, List.mem_cons, List.not_mem_nil, or_false, not_or] at h
  simp [escape, controlEscape?, hoctal, h]

lemma escapeLetters_forms : ∀ c ∈ escapeLetters,
    (c = '\\' || c = '\'' || c = '"') = true ∨ c = '\n' ∨ c = 'x' ∨ c = 'u' ∨ c = 'U' ∨ c = 'N' ∨
      isOctal c = true ∨ controlEscape? c ≠ none :=
  forall_mem_of_all (by decide)

/-- An escape writes less than it takes, the backslash included. -/
lemma length_escape {start n : Nat} {c : Char} {cs value : List Char} (hc : c ∈ escapeLetters)
    (h : escape start (c :: cs) = .ok (value, n)) :
    value.length ≤ n ∧ n ≤ (c :: cs).length := by
  have hhex {width : Nat} {form : String} (h : hexEscape start width form cs = .ok (value, n)) :
      value.length ≤ n ∧ n ≤ (c :: cs).length := by
    obtain ⟨hvalue, rfl, hwidth⟩ := length_hexEscape h
    rw [hvalue, List.length_cons]
    omega
  have hone {v : List Char} (hv : v.length ≤ 1)
      (h : (Except.ok (v, 1) : Except EscapeFault _) = .ok (value, n)) :
      value.length ≤ n ∧ n ≤ (c :: cs).length := by
    obtain ⟨rfl, rfl⟩ := Prod.mk.inj (Except.ok.inj h)
    exact ⟨hv, by simp⟩
  have hforms := escapeLetters_forms c hc
  rw [escape] at h
  split_ifs at h with hself hbreak hx hu hU hN hoctal
  · exact hone (by simp) h
  · exact hone (by simp) h
  · exact hhex h
  · exact hhex h
  · exact hhex h
  · -- octal digits
    obtain ⟨rfl, rfl⟩ := Prod.mk.inj (Except.ok.inj h)
    have hfirst : ((c :: cs).take 3).takeWhile isOctal = c :: (cs.take 2).takeWhile isOctal := by
      simp [hoctal]
    refine ⟨?_, (List.takeWhile_sublist _).length_le.trans (List.length_take_le' 3 _)⟩
    rw [hfirst]
    simp
  · -- a control character
    have hcontrol : controlEscape? c ≠ none := by
      simpa [hself, hbreak, hx, hu, hU, hN, hoctal] using hforms
    rcases hd : controlEscape? c with _ | d
    · exact absurd hd hcontrol
    · rw [hd] at h
      exact hone (by simp) h

lemma length_escape_le {start n : Nat} {cs value : List Char}
    (h : escape start cs = .ok (value, n)) : value.length ≤ n + 1 ∧ n ≤ cs.length := by
  rcases cs with _ | ⟨c, cs⟩
  · obtain ⟨rfl, rfl⟩ := Prod.mk.inj (Except.ok.inj h)
    simp
  · by_cases hc : c ∈ escapeLetters
    · have := length_escape hc h
      omega
    · rw [escape_of_notMem hc] at h
      obtain ⟨rfl, rfl⟩ := Prod.mk.inj (Except.ok.inj h)
      simp

/-! ### Texts that decode to themselves -/

lemma length_decodeText {start : Nat} {cs value : List Char} (h : decodeText start cs = .ok value) :
    value.length ≤ cs.length := by
  fun_induction decodeText start cs generalizing value with
  | case1 =>
    obtain rfl := Except.ok.inj h
    exact Nat.le_refl _
  | case2 => cases h
  | case3 start cs v n hescape ih =>
    obtain ⟨u, hu, rfl⟩ := map_eq_ok h
    have hrest := ih hu
    have hv := length_escape_le hescape
    simp only [List.length_append, List.length_cons, List.length_drop] at hrest ⊢
    omega
  | case4 start c cs hc ih =>
    obtain ⟨u, hu, rfl⟩ := map_eq_ok h
    exact Nat.succ_le_succ (ih hu)

/-- A text that decodes to itself has no escape at its beginning. -/
lemma notMem_of_decodeText {start : Nat} {c : Char} {cs : List Char}
    (h : decodeText start ('\\' :: c :: cs) = .ok ('\\' :: c :: cs)) :
    c ∉ escapeLetters ∧ ∃ next, decodeText next cs = .ok cs := by
  rw [decodeText, if_pos rfl] at h
  rcases hescape : escape start (c :: cs) with f | ⟨value, n⟩
  · rw [hescape] at h
    cases h
  rw [hescape] at h
  obtain ⟨rest, hrest, happend⟩ := map_eq_ok h
  by_cases hc : c ∈ escapeLetters
  · -- the escape and the rest together are too short
    have hlen := congrArg List.length happend
    have hvalue := length_escape hc hescape
    have := length_decodeText hrest
    simp only [List.length_append, List.length_cons, List.length_drop] at hlen hvalue this
    omega
  · rw [escape_of_notMem hc] at hescape
    obtain ⟨rfl, rfl⟩ := Prod.mk.inj (Except.ok.inj hescape)
    obtain rfl : rest = cs := by simpa using happend
    exact ⟨hc, _, hrest⟩

lemma Verbatim.decodeText {cs : List Char} (h : Verbatim cs) (start : Nat) :
    decodeText start cs = .ok cs := by
  induction h generalizing start with
  | nil => rw [Script.decodeText]
  | char hquote hslash hbreak h ih =>
    rw [Script.decodeText, if_neg hslash, ih]
    rfl
  | backslash hc h ih =>
    rw [Script.decodeText, if_pos rfl, escape_of_notMem hc]
    simp only [List.drop_succ_cons, List.drop_zero, ih]
    rfl

/-! ### Where texts end -/

section

variable {quote : Char} (passed : Nat)

lemma textBody_close (rest : List Char) :
    textBody [quote] passed (quote :: rest) = .ok ([], rest) := by
  rw [textBody.eq_def]
  simp

lemma textBody_char {c : Char} (cs : List Char) (hquote : c ≠ quote) (hslash : c ≠ '\\')
    (hbreak : c ≠ '\n') :
    textBody [quote] passed (c :: cs) =
      (textBody [quote] passed cs).map fun r => (c :: r.1, r.2) := by
  rw [textBody.eq_def]
  simp [hquote.symm, hslash, hbreak]

lemma textBody_backslash (c : Char) (cs : List Char) (hquote : '\\' ≠ quote) :
    textBody [quote] passed ('\\' :: c :: cs) =
      (textBody [quote] (if c = '\n' then passed + 1 else passed) cs).map
        fun r => ('\\' :: c :: r.1, r.2) := by
  rw [textBody.eq_def]
  simp [hquote.symm]

end

lemma Verbatim.textBody {cs : List Char} (h : Verbatim cs) (passed : Nat) (rest : List Char) :
    textBody ['"'] passed (cs ++ '"' :: rest) = .ok (cs, rest) := by
  induction h generalizing passed with
  | nil => exact textBody_close passed rest
  | char hquote hslash hbreak h ih =>
    rw [List.cons_append, textBody_char passed _ hquote hslash hbreak, ih]
    rfl
  | backslash hc h ih =>
    rw [List.cons_append, List.cons_append, textBody_backslash passed _ _ (by decide), ih]
    rfl

/-- A text that ends where it should and decodes to itself is verbatim. -/
lemma verbatim_of_textBody {cs : List Char} {passed start : Nat}
    (hbody : textBody ['"'] passed (cs ++ ['"']) = .ok (cs, []))
    (hdecode : decodeText start cs = .ok cs) : Verbatim cs := by
  -- on the length, because a backslash takes the character after it along
  induction hn : cs.length using Nat.strong_induction_on generalizing cs passed start with
  | _ n ih =>
    subst hn
    rcases cs with _ | ⟨c, cs⟩
    · exact .nil
    rw [List.cons_append] at hbody
    by_cases hquote : c = '"'
    · rw [hquote, textBody_close] at hbody
      simp at hbody
    by_cases hslash : c = '\\'
    · subst hslash
      rcases cs with _ | ⟨d, ds⟩
      · rw [List.nil_append, textBody_backslash passed _ _ (by decide), Script.textBody] at hbody
        cases hbody
      · rw [List.cons_append, textBody_backslash passed _ _ (by decide)] at hbody
        obtain ⟨⟨body, rest⟩, hr, heq⟩ := map_eq_ok hbody
        obtain ⟨rfl, rfl⟩ : body = ds ∧ rest = [] := by simpa using heq
        obtain ⟨hd, next, hnext⟩ := notMem_of_decodeText hdecode
        exact .backslash hd (ih body.length (by simp only [List.length_cons]; omega) hr hnext rfl)
    by_cases hbreak : c = '\n'
    · rw [hbreak, Script.textBody.eq_def] at hbody
      simp at hbody
    · rw [textBody_char passed _ hquote hslash hbreak] at hbody
      obtain ⟨⟨body, rest⟩, hr, heq⟩ := map_eq_ok hbody
      obtain ⟨rfl, rfl⟩ : body = cs ∧ rest = [] := by simpa using heq
      rw [Script.decodeText, if_neg hslash] at hdecode
      obtain ⟨value, hvalue, heq⟩ := map_eq_ok hdecode
      obtain rfl : value = body := by simpa using heq
      exact .char hquote hslash hbreak (ih value.length (by simp) hr hvalue rfl)

/-! ### Words between quotes -/

lemma cut_quote (line : Nat) (cs : List Char) : cut line '"' cs = cutText line {} '"' cs := by
  have hname : Text.isNameStart '"' = false := by decide +kernel
  simp [cut, hname, isQuote]

/-- A text has a value if what stands between its quotes decodes to it. -/
lemma textLexeme_eq_iff (body : List Char) (value : String) :
    textLexeme {} body = .text value ↔ decodeText 0 body = .ok value.toList := by
  unfold textLexeme
  simp only [Bool.false_eq_true, if_false]
  rcases decodeText 0 body with f | v
  · simp
  · simp [← String.toList_inj]

lemma Verbatim.not_prefix {cs : List Char} (h : Verbatim cs) (hne : cs ≠ []) :
    ¬ ['"', '"'].isPrefixOf (cs ++ ['"']) = true := by
  cases h with
  | nil => exact absurd rfl hne
  | char hquote hslash hbreak h => simp [hquote.symm]
  | backslash hc h => simp

lemma count_of_noBlank {cs : List Char} (h : ∀ c ∈ cs, Text.isBlank c = false) :
    cs.count '\n' = 0 := by
  rw [List.count_eq_zero]
  intro hmem
  exact absurd (h _ hmem) (by decide)

/-- A word between double quotes is a literal of the word exactly if it is verbatim. -/
lemma isLiteralOf_enquote_iff {word : String} (hne : word ≠ "")
    (hblank : ∀ c ∈ word.toList, Text.isBlank c = false) :
    IsLiteralOf (enquote word) word ↔ Verbatim word.toList := by
  have hcs : word.toList ≠ [] := by simpa using hne
  have htext : (enquote word).toList = '"' :: (word.toList ++ ['"']) := by simp [enquote]
  constructor
  · rintro ⟨cs, hsplit, hcut⟩
    obtain rfl : word.toList ++ ['"'] = cs := by
      rw [htext] at hsplit
      exact (List.cons.inj hsplit).2
    have hcut := hcut 0
    rw [cut_quote, cutText] at hcut
    split_ifs at hcut with htriple
    · -- between groups of three quotes there is too little left
      rcases hbody : textBody ['"', '"', '"'] 0 ((word.toList ++ ['"']).drop 2) with
        n | ⟨body, rest⟩
      · simp [hbody] at hcut
      · have hlen := congrArg List.length (textBody_split hbody)
        obtain ⟨hlexeme, -, -⟩ :
            textLexeme {} body = .text word ∧ body.count '\n' = 0 ∧ rest = [] := by
          simpa [hbody] using hcut
        have hvalue := length_decodeText ((textLexeme_eq_iff body word).mp hlexeme)
        simp only [List.length_append, List.length_cons, List.length_nil, List.length_drop] at hlen
        omega
    · rcases hbody : textBody ['"'] 0 (word.toList ++ ['"']) with n | ⟨body, rest⟩
      · simp [hbody] at hcut
      · obtain ⟨hlexeme, -, rfl⟩ :
            textLexeme {} body = .text word ∧ body.count '\n' = 0 ∧ rest = [] := by
          simpa [hbody] using hcut
        obtain rfl : word.toList = body := by simpa using textBody_split hbody
        exact verbatim_of_textBody hbody ((textLexeme_eq_iff _ word).mp hlexeme)
  · intro h
    refine ⟨_, htext, fun line => ?_⟩
    have hlexeme := (textLexeme_eq_iff word.toList word).mpr (h.decodeText 0)
    rw [cut_quote, cutText, if_neg (h.not_prefix hcs), h.textBody]
    simp only [hlexeme, count_of_noBlank hblank]

/-- **Quoted words**: a word that is written between double quotes is read as one text with the
value of the word if and only if it is verbatim, that is, if it has no double quote and every
backslash in it stands before a character that makes no escape of it. -/
theorem quoted_isLiteralOf_iff (word : String) (hne : word ≠ "")
    (hblank : ∀ c ∈ word.toList, Text.isBlank c = false) :
    (operand word = enquote word → (IsLiteralOf (operand word) word ↔ Verbatim word.toList)) ∧
      (conditionOperand word = enquote word →
        (IsLiteralOf (conditionOperand word) word ↔ Verbatim word.toList)) := by
  refine ⟨fun h => ?_, fun h => ?_⟩ <;> rw [h] <;> exact isLiteralOf_enquote_iff hne hblank

def plainWord : String := "it's\\ok"

theorem plainWord_isLiteralOf :
    operand plainWord = enquote plainWord ∧ IsLiteralOf (operand plainWord) plainWord := by
  have hquoted : operand plainWord = enquote plainWord := by decide +kernel
  have hverbatim : Verbatim plainWord.toList := by
    refine .char ?_ ?_ ?_ (.char ?_ ?_ ?_ (.char ?_ ?_ ?_ (.char ?_ ?_ ?_ (.backslash ?_
      (.char ?_ ?_ ?_ .nil))))) <;> decide
  have hword := quoted_isLiteralOf_iff plainWord (by decide)
    (forall_mem_of_all (by decide +kernel))
  exact ⟨hquoted, (hword.1 hquoted).mpr hverbatim⟩

def quotedSum : String := "\"+x+\""

/-- The first quote of the word ends the text, and what comes after it is read as part of the
program: a sum, in which a variable occurs. -/
theorem quotedSum_closes_early :
    operand quotedSum = enquote quotedSum ∧ conditionOperand quotedSum = enquote quotedSum ∧
      (∀ line, cut line '"' (quotedSum ++ "\"").toList =
        .ok { lexeme := .text "", rest := "+x+\"\"".toList }) ∧
      ¬ IsLiteralOf (operand quotedSum) quotedSum := by
  have hquoted : operand quotedSum = enquote quotedSum := by decide +kernel
  have hchars : quotedSum.toList = '"' :: "+x+\"".toList := by decide
  refine ⟨hquoted, by decide +kernel, fun line => ?_, ?_⟩
  · have hlexeme : textLexeme {} [] = .text "" :=
      (textLexeme_eq_iff [] "").mpr (Verbatim.nil.decodeText 0)
    rw [cut_quote, String.toList_append, hchars, List.cons_append, cutText, if_neg (by decide),
      textBody_close]
    simp only [hlexeme]
    rfl
  · rw [hquoted, isLiteralOf_enquote_iff (by decide) (forall_mem_of_all (by decide +kernel)),
      hchars]
    intro h
    cases h with
    | char hquote _ _ _ => exact hquote rfl

end Flowline
