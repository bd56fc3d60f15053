import Mathlib.Tactic.Lemma
import Flowline.Emit.Code
import Flowline.Proofs.Lexing
import Flowline.Proofs.Quotation
import Flowline.Script.Run

/-!
Text that is printed.

Words that are printed and are no variable are written as one text between double quotes. Every
backslash and every double quote in it has a backslash before it, so a reader that goes from left to
right meets the escapes in pairs: none of them ends the text, and each gives back the character that
was escaped. What is read is what was written, whatever the words are made of.
-/

namespace Flowline

open Script Text

/-! ### Escaping -/

/-- To replace a single character is to look at each character once. -/
lemma replaceAll_singleton (c : Char) (new cs : List Char) :
    replaceAll [c] new cs = cs.flatMap fun d => if d = c then new else [d] := by
  unfold replaceAll
  induction cs with
  | nil => rfl
  | cons d cs ih =>
    rw [replaceFrom, List.flatMap_cons]
    by_cases h : d = c
    · simp [h, ih]
    · simp [h, Ne.symm h, ih]

/-- Escaping is two replacements, the backslashes first: the second leaves the backslashes of the
first alone, and the first has nothing to do with the quotes. -/
lemma escapeText_eq_replaceAll (cs : List Char) :
    escapeText cs = replaceAll ['"'] ['\\', '"'] (replaceAll ['\\'] ['\\', '\\'] cs) := by
  rw [replaceAll_singleton, replaceAll_singleton, List.flatMap_assoc, escapeText]
  refine List.flatMap_congr fun c _ => ?_
  by_cases hslash : c = '\\'
  · simp [hslash]
  · by_cases hquote : c = '"' <;> simp [hslash, hquote]

lemma escapeText_special {c : Char} (h : c = '\\' ∨ c = '"') (cs : List Char) :
    escapeText (c :: cs) = '\\' :: c :: escapeText cs := by
  simp [escapeText, h]

lemma escapeText_plain {c : Char} (hslash : c ≠ '\\') (hquote : c ≠ '"') (cs : List Char) :
    escapeText (c :: cs) = c :: escapeText cs := by
  simp [escapeText, hslash, hquote]

/-! ### Reading an escaped text -/

lemma textBody_escapeText {cs : List Char} (h : '\n' ∉ cs) (passed : Nat) (rest : List Char) :
    textBody ['"'] passed (escapeText cs ++ '"' :: rest) = .ok (escapeText cs, rest) := by
  induction cs with
  | nil => exact textBody_close passed rest
  | cons c cs ih =>
    obtain ⟨hbreak, hcs⟩ := not_or.mp (List.mem_cons.not.mp h)
    by_cases hc : c = '\\' ∨ c = '"'
    · rw [escapeText_special hc, List.cons_append, List.cons_append,
        textBody_backslash passed _ _ (by decide), if_neg (Ne.symm hbreak), ih hcs]
      rfl
    · obtain ⟨hslash, hquote⟩ := not_or.mp hc
      rw [escapeText_plain hslash hquote, List.cons_append,
        textBody_char passed _ hquote hslash (Ne.symm hbreak), ih hcs]
      rfl

lemma decodeText_escapeText (start : Nat) (cs : List Char) :
    decodeText start (escapeText cs) = .ok cs := by
  induction cs generalizing start with
  | nil => exact Verbatim.nil.decodeText start
  | cons c cs ih =>
    by_cases hc : c = '\\' ∨ c = '"'
    · have hescape : escape start (c :: escapeText cs) = .ok ([c], 1) := by
        rcases hc with rfl | rfl <;> rfl
      rw [escapeText_special hc, decodeText, if_pos rfl, hescape]
      simp only [List.drop_succ_cons, List.drop_zero, ih]
      rfl
    · obtain ⟨hslash, hquote⟩ := not_or.mp hc
      rw [escapeText_plain hslash hquote, decodeText, if_neg hslash, ih]
      rfl

lemma notMem_escapeText {c : Char} {cs : List Char} (hc : c ≠ '\\') (h : c ∉ cs) :
    c ∉ escapeText cs := by
  unfold escapeText
  rw [List.mem_flatMap]
  rintro ⟨d, hd, hm⟩
  have hne : c ≠ d := fun heq => h (heq ▸ hd)
  split at hm <;> simp [hc, hne] at hm

/-- The text does not begin with two quotes, which would open a group of three. -/
lemma not_prefix_escapeText (cs : List Char) {rest : List Char} (hrest : rest.head? ≠ some '"') :
    ¬ ['"', '"'].isPrefixOf (escapeText cs ++ '"' :: rest) = true := by
  cases cs with
  | nil =>
    cases rest with
    | nil => simp [escapeText]
    | cons d rest =>
      have hd : d ≠ '"' := by simpa using hrest
      simp [escapeText, hd.symm]
  | cons c cs =>
    by_cases hc : c = '\\' ∨ c = '"'
    · rw [escapeText_special hc]
      simp
    · obtain ⟨hslash, hquote⟩ := not_or.mp hc
      rw [escapeText_plain hslash hquote]
      simp [Ne.symm hquote]

/-- An escaped text between double quotes is cut off as one lexeme with the text as its value. -/
lemma cut_escapeText {cs : List Char} (h : '\n' ∉ cs) (line : Nat) (rest : List Char)
    (hrest : rest.head? ≠ some '"') :
    cut line '"' (escapeText cs ++ '"' :: rest) =
      .ok { lexeme := .text (String.ofList cs), rest } := by
  have hlexeme : textLexeme {} (escapeText cs) = .text (String.ofList cs) := by
    rw [textLexeme_eq_iff, String.toList_ofList]
    exact decodeText_escapeText 0 cs
  have hcount : (escapeText cs).count '\n' = 0 :=
    List.count_eq_zero.mpr (notMem_escapeText (by decide) h)
  rw [cut_quote, cutText, if_neg (not_prefix_escapeText cs hrest), textBody_escapeText h]
  simp only [hlexeme, hcount]

/-! ### The line that prints -/

/-- The words are printed as text: there is at least one, and they are not a single variable. -/
def IsPrintedText (ws : List String) : Prop := ws ≠ [] ∧ ∀ w, ws = [w] → isName w = false

lemma printCode_of_text {ws : List String} (h : IsPrintedText ws) :
    printCode ws = "print(" ++ textLiteral ws ++ ")" := by
  obtain ⟨hne, hname⟩ := h
  match ws with
  | [] => exact absurd rfl hne
  | [w] => simp [printCode, hname w rfl]
  | _ :: _ :: _ => rfl

lemma notMem_intercalate {c : Char} (hc : c ≠ ' ') {ws : List String}
    (h : ∀ w ∈ ws, c ∉ w.toList) : c ∉ (" ".intercalate ws).toList := by
  rw [String.toList_intercalate]
  induction ws with
  | nil => simp
  | cons w ws ih =>
    have hw := h w (by simp)
    have hws := ih fun v hv => h v (List.mem_cons_of_mem w hv)
    cases ws with
    | nil => simpa using hw
    | cons v ws =>
      simp only [List.map_cons, List.intercalate_cons_cons] at hws ⊢
      simpa [hc, hw] using hws

def printPieces (line : Nat) (value : String) : List Piece :=
  [⟨.name "print", line, 0, 0⟩, ⟨.sign "(", line, 0, 1⟩, ⟨.text value, line, 0, 1⟩,
    ⟨.sign ")", line, 0, 0⟩, ⟨.lineEnd, line, 0, 0⟩]

/-- The line is cut into a call with the text as its only argument. -/
lemma scan_print {cs : List Char} (h : '\n' ∉ cs) (line : Nat) :
    scan true line 0 [] [] ("print(\"".toList ++ escapeText cs ++ "\")".toList) =
      .ok ⟨printPieces line (String.ofList cs), []⟩ := by
  have hname : scan true line 0 [] []
        ('p' :: ['r', 'i', 'n', 't'] ++ '(' :: '"' :: (escapeText cs ++ ['"', ')'])) =
      ahead [⟨.name "print", line, 0, 0⟩]
        (scan false line 0 [] [] ('(' :: '"' :: (escapeText cs ++ ['"', ')']))) :=
    scan_name (by decide +kernel) (forall_mem_of_all (by decide +kernel))
      (forall_mem_of_all (by decide)) (.inr rfl) (parted_cons _ (by decide))
  have hopen : scan false line 0 [] [] ('(' :: '"' :: (escapeText cs ++ ['"', ')'])) =
      ahead [⟨.sign "(", line, 0, 1⟩]
        (scan false line 0 [] [⟨'(', line⟩] ('"' :: (escapeText cs ++ ['"', ')']))) :=
    scan_sign (by decide) (by simp [StandsAlone, doubleSigns]) rfl (.inl rfl)
  have htext : scan false line 0 [] [⟨'(', line⟩] ('"' :: (escapeText cs ++ ['"', ')'])) =
      ahead [⟨.text (String.ofList cs), line, 0, 1⟩]
        (scan false line 0 [] [⟨'(', line⟩] [')']) :=
    scan_cut (by decide) (.inl rfl) (cut_escapeText h line [')'] (by decide)) rfl
  have hclose : scan false line 0 [] [⟨'(', line⟩] [')'] =
      ahead [⟨.sign ")", line, 0, 0⟩] (scan false line 0 [] [] []) :=
    scan_sign (by decide) (by simp [StandsAlone]) rfl (.inl rfl)
  have hchars : "print(\"".toList ++ escapeText cs ++ "\")".toList =
      'p' :: ['r', 'i', 'n', 't'] ++ '(' :: '"' :: (escapeText cs ++ ['"', ')']) := by
    simp
  rw [hchars, hname, hopen, htext, hclose, scan_nil]
  rfl

lemma readProgram_print {text : String} {value : String} (hzero : '\x00' ∉ text.toList)
    (hscan : scan true 1 0 [] [] text.toList = .ok ⟨printPieces 1 value, []⟩) :
    readProgram text = .ok [.expr (.call (.name "print") [.text value])] := by
  have hread : Pieces.read ⟨printPieces 1 value, []⟩ =
      .ok [.expr (.call (.name "print") [.text value])] := rfl
  rw [readProgram, if_neg (by simpa using hzero), hscan]
  simp only [hread]
  rfl

lemma run_print {text : String} {value : String} (hzero : '\x00' ∉ text.toList)
    (hscan : scan true 1 0 [] [] text.toList = .ok ⟨printPieces 1 value, []⟩)
    (input : List Char) : run text input = (value ++ "\n", .finished) := by
  -- the first statement takes five steps, whatever is left of the limit
  have hblock : ∀ n, runBlock (n + 5) [] [.expr (.call (.name "print") [.text value])]
      { globals := [("__name__", .text "__catapillar_exec__")], input } =
        (Machine.print { globals := [("__name__", .text "__catapillar_exec__")], input }
          (value ++ "\n"), .done .normal) := fun n => rfl
  have hfuel : stepLimit + 1 = stepLimit - 4 + 5 := by decide
  simp only [run, readProgram_print hzero hscan, List.length_singleton, hfuel, hblock,
    Machine.print, String.empty_append]

/-- **Printed text**: words that are printed as text are written as `print("` and `")` around the
words, joined by spaces, in which first every backslash and then every double quote was replaced.
Read as a text of the program, this ends at the last quote and has the joined words as its value; and
the program of this line prints them, if no character in them is the one of number zero, which no
program may hold. -/
theorem printCode_reads_back (ws : List String) (htext : IsPrintedText ws)
    (hblank : ∀ w ∈ ws, ∀ c ∈ w.toList, isBlank c = false) :
    ∃ escaped : List Char,
      escaped = replaceAll ['"'] ['\\', '"']
        (replaceAll ['\\'] ['\\', '\\'] (" ".intercalate ws).toList) ∧
      (printCode ws).toList = "print(\"".toList ++ escaped ++ "\")".toList ∧
      (∀ line, cut line '"' (escaped ++ ['"', ')']) =
        .ok { lexeme := .text (" ".intercalate ws), rest := [')'] }) ∧
      ((∀ w ∈ ws, '\x00' ∉ w.toList) → ∀ input,
        run (printCode ws) input = (" ".intercalate ws ++ "\n", .finished)) := by
  have hbreak : '\n' ∉ (" ".intercalate ws).toList :=
    notMem_intercalate (by decide) fun w hw hm => absurd (hblank w hw _ hm) (by decide)
  have hcode : (printCode ws).toList =
      "print(\"".toList ++ escapeText (" ".intercalate ws).toList ++ "\")".toList := by
    rw [printCode_of_text htext, textLiteral, enquote]
    simp
  refine ⟨escapeText (" ".intercalate ws).toList, escapeText_eq_replaceAll _, hcode, ?_, ?_⟩
  · intro line
    have := cut_escapeText hbreak line [')'] (by decide)
    rwa [String.ofList_toList] at this
  · -- the whole line is one call
    intro hzero input
    have hscan := scan_print hbreak 1
    rw [← hcode, String.ofList_toList] at hscan
    refine run_print ?_ hscan input
    have hescaped := notMem_escapeText (by decide) (notMem_intercalate (by decide) hzero)
    rw [hcode]
    simpa using hescaped

def quotedPath : List String := ["open", "\"\\\"", "c:\\"]

theorem quotedPath_printed :
    IsPrintedText quotedPath ∧
      printCode quotedPath = "print(\"open \\\"\\\\\\\" c:\\\\\")" ∧
      run (printCode quotedPath) [] = ("open \"\\\" c:\\\n", .finished) := by
  have htext : IsPrintedText quotedPath := ⟨by decide, by simp [quotedPath]⟩
  have hblank : ∀ w ∈ quotedPath, ∀ c ∈ w.toList, isBlank c = false := by
    simp only [quotedPath, List.forall_mem_cons]
    refine ⟨?_, ?_, ?_, by simp⟩ <;> exact forall_mem_of_all (by decide)
  obtain ⟨escaped, -, -, -, hrun⟩ := printCode_reads_back quotedPath htext hblank
  refine ⟨htext, by decide, ?_⟩
  rw [hrun (by decide) []]
  rfl

end Flowline
