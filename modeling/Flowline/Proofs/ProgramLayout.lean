import Flowline.Proofs.Concatenation
import Flowline.Proofs.LineScans

/-!
The layout of a generated program.

A text is cut with the levels that are open: a line may open one level more, or return to one that
is open. As long as no line of a generated program leaves a text or a bracket open, its lines are
found where they were written, and the levels that are open are those up to the level of the line
before. So a line never returns to a level that is not open, a level is entered only after a head
with its colon, and cutting halts for the levels only where there are too many of them.
-/

namespace Flowline

open Text

/-! ### Levels that are open -/

/-- The columns of the levels up to `k`, innermost first. -/
def ladder : Nat → List Nat
  | 0 => []
  | k + 1 => 4 * (k + 1) :: ladder k

lemma headD_ladder (k : Nat) : (ladder k).headD 0 = 4 * k := by cases k <;> rfl

lemma length_ladder (k : Nat) : (ladder k).length = k := by
  induction k with
  | zero => rfl
  | succ k ih => rw [ladder, List.length_cons, ih]

lemma dropWhile_ladder {k m : Nat} (h : m ≤ k) : (ladder k).dropWhile (4 * m < ·) = ladder m := by
  induction k with
  | zero => rw [Nat.le_zero.mp h, ladder, List.dropWhile_nil]
  | succ k ih =>
    rcases Nat.lt_or_eq_of_le h with hlt | rfl
    · rw [ladder, List.dropWhile_cons_of_pos (by simpa using hlt), ih (by omega)]
    · rw [ladder, List.dropWhile_cons_of_neg (by simp)]

/-- With the levels up to `k` open, a line at most one level further in leaves the levels up to its
own open, unless there are too many. -/
lemma levelsAt_ladder {k m : Nat} (h : m ≤ k + 1) :
    Script.levelsAt (4 * m) (ladder k) =
      if m = k + 1 ∧ Script.levelLimit ≤ m then .error .deepIndent else .ok (ladder m) := by
  rcases Nat.lt_or_eq_of_le h with hlt | rfl
  · have hle : m ≤ k := by omega
    simp only [Script.levelsAt, headD_ladder, dropWhile_ladder hle]
    rw [if_neg (by omega), if_pos trivial, if_neg (by omega)]
  · simp only [Script.levelsAt, headD_ladder, length_ladder]
    rw [if_pos (by omega)]
    split_ifs with hroom hdeep hdeep
    · omega
    · rfl
    · rfl
    · exact absurd ⟨trivial, not_lt.mp hroom⟩ hdeep

/-! ### Heads -/

/-- The text is a head: its word, what follows it after a blank, and a colon. -/
def IsHeadText (text : String) : Prop :=
  ∃ word ∈ Script.headWords, ∃ middle, text.toList = word.toList ++ (middle ++ [':']) ∧
    ∀ c ∈ middle.head?, c = ' '

lemma isHeadText_bare (word : String) (hword : word ∈ Script.headWords) :
    IsHeadText (word ++ ":") :=
  ⟨word, hword, [], by simp, by simp⟩

lemma isHeadText_spaced {word text : String} (hword : word ∈ Script.headWords) (t : String)
    (htext : text.toList = word.toList ++ (' ' :: t.toList ++ [':'])) : IsHeadText text :=
  ⟨word, hword, ' ' :: t.toList, htext, by simp⟩

lemma isHeadText_of_code {a : Action} {args : List String} {text : String}
    (hopens : a.opensBlock = true) (h : a.code args = .ok text) : IsHeadText text := by
  have hcondition {action : Action} {keyword : String} (hkeyword : keyword ∈ Script.headWords)
      (h : conditionCode action keyword args = .ok text) : IsHeadText text := by
    rcases args with _ | ⟨w, ws⟩
    · cases h
    · obtain rfl := Except.ok.inj h
      exact isHeadText_spaced hkeyword (condition (w :: ws)) (by simp)
  cases a with
  | print | set | call | giveBack | break_ | continue_ | pass | add | sub | mul | div =>
    cases hopens
  | if_ | elif | while_ => exact hcondition (by decide) h
  | else_ =>
    obtain rfl := Except.ok.inj h
    exact isHeadText_bare "else" (by decide)
  | try_ =>
    obtain rfl := Except.ok.inj h
    exact isHeadText_bare "try" (by decide)
  | finally_ =>
    obtain rfl := Except.ok.inj h
    exact isHeadText_bare "finally" (by decide)
  | except =>
    obtain rfl := Except.ok.inj h
    rcases args with _ | ⟨name, rest⟩
    · exact isHeadText_bare "except" (by decide)
    · have hword : "except" ∈ Script.headWords := by decide
      exact isHeadText_spaced hword (errorName (dropColons name)) (by simp [exceptCode])
  | define =>
    rcases args with _ | ⟨f, params⟩
    · cases h
    · obtain rfl := Except.ok.inj h
      have hword : "def" ∈ Script.headWords := by decide
      exact isHeadText_spaced hword
        (dropColons f ++ "(" ++ ", ".intercalate (params.map dropColons) ++ ")") (by simp)
  | for_ =>
    have hword : "for" ∈ Script.headWords := by decide
    rcases args with _ | ⟨var, _ | ⟨second, _ | ⟨third, rest⟩⟩⟩
    · cases h
    · cases h
    · cases h
    · obtain rfl := Except.ok.inj h
      exact isHeadText_spaced hword (var ++ " in " ++ dropColons (" ".intercalate
        (if second = "in" then third :: rest else second :: third :: rest))) (by simp)

lemma IsHeadText.getLast? {text : String} (h : IsHeadText text) : text.toList.getLast? = some ':' := by
  obtain ⟨word, -, middle, htext, -⟩ := h
  rw [htext, ← List.append_assoc, List.getLast?_concat]

namespace Script

lemma headWords_chars : ∀ word ∈ headWords,
    word.toList.head?.any isNameStart = true ∧ word.toList.all isNameRest = true ∧
      word.toList.all (fun c => c.toNat < 128) = true := by
  decide +kernel

lemma cut_isHeadText {text : String} (htext : IsHeadText text) {c : Char} {cs : List Char}
    (hcons : text.toList = c :: cs) {line : Nat} {k : Cut} (hcut : cut line c cs = .ok k) :
    ∃ word ∈ headWords, k.lexeme = .name word := by
  obtain ⟨word, hword, middle, hmiddle, hblank⟩ := htext
  obtain ⟨hstart, hnames, hascii⟩ := headWords_chars word hword
  refine ⟨word, hword, ?_⟩
  rcases hchars : word.toList with _ | ⟨w, ws⟩
  · simp [hchars] at hstart
  rw [hchars] at hstart hnames hascii hmiddle
  rw [hcons, List.cons_append] at hmiddle
  obtain ⟨rfl, rfl⟩ := List.cons.inj hmiddle
  have hparted : Parted (middle ++ [':']) := by
    rcases middle with _ | ⟨d, middle⟩
    · exact parted_cons [] (by decide)
    · rw [hblank d rfl]
      exact parted_cons _ (by decide)
  have hname : cutWord line c (ws ++ (middle ++ [':'])) =
      .ok { lexeme := .name (String.ofList (c :: ws)), rest := middle ++ [':'] } :=
    cutWord_name (fun e he => List.all_eq_true.mp hnames e (List.mem_cons_of_mem c he))
      (fun e he => by simpa using List.all_eq_true.mp hascii e he) hparted
  rw [cut, if_pos (by simpa using hstart), hname] at hcut
  obtain rfl := Except.ok.inj hcut
  rw [← hchars, String.ofList_toList]

/-! ### The lines that are found -/

structure FoundAt (number : Nat) (r : Row) (l : Line) : Prop where
  number : l.number = number
  column : l.column = 4 * r.level

/-- The lines that are found where lines were written, numbered from `line` on: all of them, or those
up to a line on which cutting halts. -/
inductive Found : Nat → List Row → List Line → Prop
  | nil (line : Nat) : Found line [] []
  | halted {line : Nat} {r : Row} {rs : List Row} {l : Line} {why : Halt} (hline : FoundAt line r l)
      (hhalts : l.Halts why) (hwhy : why = .strayBackslash ∨ why = .deepIndent ∧ r.level = levelLimit) :
      Found line (r :: rs) [l]
  | onward {line : Nat} {r : Row} {rs : List Row} {l : Line} {ls : List Line}
      (hline : FoundAt line r l) (hwhole : l.IsWhole) (hlevel : r.level < levelLimit)
      (hhead : r.line.action.opensBlock = true → l.IsHead) (htail : Found (line + 1) rs ls) :
      Found line (r :: rs) (l :: ls)

lemma Found.column_head? {line : Nat} {rs : List Row} {ls : List Line} (h : Found line rs ls) :
    ls.head?.map Line.column = rs.head?.map fun r => 4 * r.level := by
  cases h with
  | nil => rfl
  | halted hline => simp [hline.column]
  | onward hline => simp [hline.column]

lemma Found.first {line : Nat} {rs : List Row} {ls : List Line} (h : Found line rs ls)
    {l : Line} (hl : l ∈ ls.head?) : ∃ r ∈ rs.head?, 4 * r.level = l.column := by
  have hcolumn := h.column_head?
  rw [Option.mem_def.mp hl] at hcolumn
  exact Option.map_eq_some_iff.mp hcolumn.symm

lemma Found.laid {line : Nat} {rs : List Row} {ls : List Line} (h : Found line rs ls)
    (hsteps : rs.IsChain Row.Steps) : Laid ls := by
  induction h with
  | nil => exact ⟨.nil, by simp⟩
  | halted hline =>
    refine ⟨.singleton _, fun m hm => ?_⟩
    rw [List.mem_singleton.mp hm, hline.column]
    exact Nat.dvd_mul_right 4 _
  | @onward line r rs l ls hline hwhole hlevel hhead htail ih =>
    obtain ⟨hnext, hsteps⟩ := List.isChain_cons.mp hsteps
    have hlaid := ih hsteps
    refine ⟨List.isChain_cons.mpr ⟨fun m hm => ?_, hlaid.steps⟩, ?_⟩
    · obtain ⟨s, hs, hcolumn⟩ := htail.first hm
      obtain ⟨hle, hopens⟩ := hnext s hs
      unfold Follows
      rw [hline.column, ← hcolumn]
      rcases Nat.lt_or_eq_of_le hle with hlt | heq
      · exact .inl (by omega)
      · exact .inr ⟨hhead (hopens heq), by omega⟩
    · rintro m (_ | ⟨_, hm⟩)
      · exact ⟨r.level, hline.column⟩
      · exact hlaid.width m hm

/-- Cutting halts at a backslash, or on a line that stands too far in. -/
lemma Found.halt {line : Nat} {rs : List Row} {ls : List Line} (h : Found line rs ls) {l : Line}
    (hl : l ∈ ls) {p : Piece} (hp : p ∈ l.pieces) {why : Halt} (hwhy : p.lexeme = .halt why) :
    why = .strayBackslash ∨ why = .deepIndent ∧ ∃ r ∈ rs, r.level = levelLimit := by
  induction h with
  | nil => cases hl
  | halted hline hhalts hother =>
    obtain rfl := List.mem_singleton.mp hl
    obtain rfl := hhalts.eq hp hwhy
    exact hother.imp_right fun hdeep => ⟨hdeep.1, _, List.mem_cons_self, hdeep.2⟩
  | onward hline hwhole hlevel hhead htail ih =>
    rcases List.mem_cons.mp hl with rfl | hl
    · exact absurd hwhy (hwhole.ne_halt hp why)
    · refine (ih hl).imp_right fun ⟨hdeep, r, hr, hlevel⟩ => ?_
      exact ⟨hdeep, r, List.mem_cons_of_mem _ hr, hlevel⟩

/-- The characters of a line: blanks, one that is no margin, and what holds no comment and no break. -/
lemma exists_codeChars {r : Row} (hr : IsLineText r.line.text) :
    ∃ c cs, r.text.toList = List.replicate (4 * r.level) ' ' ++ c :: cs ∧
      r.line.text.toList = c :: cs ∧ c ∉ marginChars ∧ ∀ d ∈ cs, d ≠ '\n' ∧ d ≠ '#' := by
  obtain ⟨c, cs, htext, hblank, hhash, hcode⟩ := row_begins hr
  refine ⟨c, cs, htext, hcode, fun hmem => ?_, fun d hd => ?_⟩
  · have hall : ∀ d ∈ marginChars, isBlank d = true ∨ d = '#' := forall_mem_of_all (by decide)
    rcases hall c hmem with hc | hc
    · rw [hblank] at hc
      cases hc
    · exact hhash hc
  · have hinline := List.all_eq_true.mp hr.inline d (by simp [hcode, hd])
    constructor
    · rintro rfl
      exact absurd hinline (by decide)
    · rintro rfl
      exact absurd hinline (by decide)

lemma exists_more (r : Row) (rs : List Row) :
    ∃ more, (programText (r :: rs)).toList = r.text.toList ++ more ∧ AtBreak more ∧
      (rs = [] ∧ more = [] ∨ more = '\n' :: (programText rs).toList) := by
  rcases rs with _ | ⟨s, rs⟩
  · exact ⟨[], by simp [programText_singleton], atBreak_nil, .inl ⟨rfl, rfl⟩⟩
  · exact ⟨_, programText_cons r s rs, atBreak_newline _, .inr rfl⟩

/-- Lines of which none leaves a text or a bracket open are found where they were written. -/
lemma found_scan {k line : Nat} (hk : k < levelLimit) {rs : List Row} (hstepped : Stepped (k + 1) rs)
    (htexts : ∀ r ∈ rs, IsLineText r.line.text)
    (hclosed : ∀ x ∈ rs.zipIdx line, leavesOpen x.2 x.1.text.toList = false) {whole : Pieces}
    (hwhole : scan true line 0 (ladder k) [] (programText rs).toList = .ok whole) :
    Found line rs (Line.group [] whole.list) := by
  induction rs generalizing k line whole with
  | nil =>
    rw [programText_nil, scan_nil] at hwhole
    obtain rfl := Except.ok.inj hwhole
    exact .nil line
  | cons r rs ih =>
    obtain ⟨c, cs, htext, hcode, hc, hcs⟩ := exists_codeChars (htexts r (by simp))
    obtain ⟨more, hmore, hbreak, hrest⟩ := exists_more r rs
    have hsettles := settles_of_leavesOpen (hclosed (r, line) (by simp))
    rw [htext] at hsettles
    rw [hmore, htext, List.append_assoc] at hwhole
    -- before the line the levels up to `k` are open, after it those up to its own
    have hbegins := hstepped.begins r rfl
    have hlevels := levelsAt_ladder hbegins
    have hlines := linesFrom_scan hbreak hc hcs hsettles hwhole
    generalize Line.group [] whole.list = ls at hlines ⊢
    cases hlines with
    | halted hnumber hcolumn hhalts hwhy =>
      refine .halted ⟨hnumber, hcolumn⟩ hhalts (hwhy.imp_right fun herror => ?_)
      rw [hlevels] at herror
      split_ifs at herror with hdeep
      exact ⟨(Except.error.inj herror).symm, by omega⟩
    | @onward _ current _ _ _ _ _ hnumber hcolumn hline hcut hfirst hcolon hcurrent hscan htail =>
      rw [hlevels] at hcurrent
      split_ifs at hcurrent with hdeep
      obtain rfl := Except.ok.inj hcurrent
      have hlevel : r.level < levelLimit := by omega
      obtain ⟨e', rest', hlist, -, hnil, hnext⟩ := scan_atBreak hbreak hscan
      obtain ⟨-, rfl⟩ := List.cons.inj (htail.symm.trans hlist)
      refine .onward ⟨hnumber, hcolumn⟩ hline hlevel (fun hopens => ?_) ?_
      · have hhead := isHeadText_of_code hopens r.line.code_eq
        obtain ⟨word, hword, hlexeme⟩ := cut_isHeadText hhead hcode hcut
        rw [hlexeme] at hfirst
        exact ⟨⟨word, hword, hfirst⟩, hcolon (hcode ▸ hhead.getLast?)⟩
      · rcases hrest with ⟨rfl, rfl⟩ | rfl
        · rw [hnil rfl]
          exact .nil (line + 1)
        · obtain ⟨tail', htail', hlist'⟩ := hnext _ rfl
          obtain ⟨hsteps, hchain⟩ := List.isChain_cons.mp hstepped.steps
          rw [← hlist']
          refine ih hlevel ⟨fun s hs => (hsteps s hs).1, hchain⟩
            (fun s hs => htexts s (List.mem_cons_of_mem r hs)) (fun x hx => hclosed x ?_) htail'
          rw [List.zipIdx_cons]
          exact List.mem_cons_of_mem _ hx

structure Layout (rows : List Row) (lines : List Line) : Prop where
  found : Found 1 rows lines
  /-- A level is entered only after a head. -/
  laid : Laid lines
  /-- No line returns to a level that is not open. -/
  returns : ∀ l ∈ lines, ∀ p ∈ l.pieces, p.lexeme ≠ .halt .strayDedent
  depth : ∀ l ∈ lines, ∀ p ∈ l.pieces, p.lexeme = .halt .deepIndent →
    ∃ r ∈ rows, r.level = levelLimit

lemma layout_scan {rs : List Row} (hstepped : Stepped 0 rs)
    (htexts : ∀ r ∈ rs, IsLineText r.line.text)
    (hclosed : ∀ x ∈ rs.zipIdx 1, leavesOpen x.2 x.1.text.toList = false) {whole : Pieces}
    (hwhole : scan true 1 0 [] [] (programText rs).toList = .ok whole) :
    Layout rs (Line.group [] whole.list) := by
  have hfound : Found 1 rs (Line.group [] whole.list) :=
    found_scan (k := 0) (by decide) (hstepped.mono (Nat.zero_le 1)) htexts hclosed hwhole
  refine ⟨hfound, hfound.laid hstepped.steps, fun l hl p hp hwhy => ?_, fun l hl p hp hwhy => ?_⟩
  · simpa using hfound.halt hl hp hwhy
  · simpa using hfound.halt hl hp hwhy

end Script

/-! ### Compiled programs -/

/-- The lines of the text that a program is compiled to, with their levels. -/
structure LaidOut (p : Program Statement) (code : String) (rows : List Row) : Prop where
  statements : rows.map (fun r => r.line.statement) = p.statements.filter Statement.isLine
  text : code = programText rows
  lines : sourceLines code.toList = rows.map fun r => r.text.toList
  indented : ∀ r ∈ rows, ∃ c cs,
    r.text.toList = List.replicate (4 * r.level) ' ' ++ c :: cs ∧ isBlank c = false
  unbroken : ∀ r ∈ rows, ∀ c ∈ r.text.toList, isLineBreak c = false
  first : ∀ r ∈ rows.head?, r.level = 0
  steps : rows.IsChain Row.Steps
  /-- How the first `n` lines are cut, if none of them, cut by itself, leaves a text or a bracket
  open. -/
  layout : ∀ n whole,
    (∀ x ∈ ((sourceLines code.toList).take n).zipIdx 1, Script.leavesOpen x.2 x.1 = false) →
    Script.scan true 1 0 [] [] (programText (rows.take n)).toList = .ok whole →
    Script.Layout (rows.take n) (Script.Line.group [] whole.list)

/-- Block ends that close nothing, and a head that is never closed. -/
def looseEnds : String := "终\n若 真:\n印 x\n终\n终\n> 当 真:\n流程:\n甲 -> 乙\n"

def looseEndsProgram : Program Statement :=
  ⟨[[[.blockEnd "~", .line .if_ ["真:"] "~", .line .print ["x"] "~", .blockEnd "~", .blockEnd "~",
      .line .while_ ["真:"] ">"],
    [.block "流程" "~", .arrow "甲" "乙" .right "~"]]]⟩

def looseEndsCode : String := "if True:\n    print(x)\nwhile True:"

/-- Heads that stand in each other, with a line in the innermost. -/
def nestedSource : Nat → String
  | 0 => "空\n"
  | n + 1 => "若 真:\n" ++ nestedSource n

def nestedStatements : Nat → List Statement
  | 0 => [.line .pass [] "~"]
  | n + 1 => .line .if_ ["真:"] "~" :: nestedStatements n

/-- The text that is generated for the heads from level `k` on. -/
def nestedText (k : Nat) : Nat → List Char
  | 0 => List.replicate (4 * k) ' ' ++ "pass".toList
  | n + 1 => List.replicate (4 * k) ' ' ++ ("if True:".toList ++ '\n' :: nestedText (k + 1) n)

lemma parse_nestedSource (n : Nat) :
    ∃ p, parse (nestedSource n) = .ok p ∧ p.statements = nestedStatements n := by
  induction n with
  | zero =>
    have hpass : parse "空\n" = .ok ⟨[[[.line .pass [] "~"]]]⟩ := by decide +kernel
    exact ⟨_, hpass, rfl⟩
  | succ n ih =>
    obtain ⟨p, hp, hstatements⟩ := ih
    have hhead : parse "若 真:\n" = .ok ⟨[[[.line .if_ ["真:"] "~"]]]⟩ := by decide +kernel
    obtain ⟨q, hq, happend⟩ :=
      (parse_append (by decide) (by decide +kernel) hhead (nestedSource n)).2 p hp
    exact ⟨q, hq, by rw [happend, hstatements]; rfl⟩

lemma emits_nested (n k : Nat) :
    ∃ j r rs, Emits ⟨k, false⟩ (nestedStatements n) j (r :: rs) ∧
      (programText (r :: rs)).toList = nestedText k n := by
  induction n generalizing k with
  | zero =>
    refine ⟨_, _, [], emits_simple k false ⟨.pass, [], "~", "pass", rfl⟩ (by decide), ?_⟩
    rw [programText_singleton, row_text]
    rfl
  | succ n ih =>
    obtain ⟨j, r, rs, hemits, htext⟩ := ih (k + 1)
    have hcode : Action.if_.code ["真:"] = .ok "if True:" := by decide +kernel
    have hhead := emits_head k false ⟨.if_, ["真:"], "~", "if True:", hcode⟩ rfl
    refine ⟨j, _, r :: rs, hhead.cons hemits, ?_⟩
    rw [programText_cons, row_text, htext, List.append_assoc]
    rfl

namespace Script

lemma scan_nestedHead (line : Nat) {blanks : Nat} {levels current : List Nat}
    (hlevels : levelsAt blanks levels = .ok current) (rest : List Char) :
    ∃ ps, scan true line blanks levels [] ("if True:".toList ++ '\n' :: rest) =
      ahead ps (scan true (line + 1) 0 current [] rest) := by
  have hif : ∀ c ∈ ['i', 'f'], isNameRest c = true ∧ c.toNat < 128 :=
    forall_mem_of_all (by decide +kernel)
  have htrue : ∀ c ∈ ['T', 'r', 'u', 'e'], isNameRest c = true ∧ c.toNat < 128 :=
    forall_mem_of_all (by decide +kernel)
  have hsplit : "if True:".toList ++ '\n' :: rest =
      'i' :: ['f'] ++ (' ' :: ('T' :: ['r', 'u', 'e'] ++ (':' :: '\n' :: rest))) := rfl
  have halone : StandsAlone ':' ('\n' :: rest) := by
    rintro d ⟨⟩
    decide
  have hbegins : (if true = true then levelsAt blanks levels else .ok levels) = .ok current := by
    rw [if_pos rfl, hlevels]
  rw [hsplit, scan_name_of_levels (by decide +kernel)
      (fun c hc => (hif c (List.mem_cons_of_mem _ hc)).1) (fun c hc => (hif c hc).2) hbegins
      (parted_cons _ (by decide)),
    scan_space, scan_name (by decide +kernel)
      (fun c hc => (htrue c (List.mem_cons_of_mem _ hc)).1) (fun c hc => (htrue c hc).2) (.inl rfl)
      (parted_cons _ (by decide)),
    scan_sign (by decide) halone rfl (.inl rfl), scan_newline, ahead_ahead, ahead_ahead,
    ahead_ahead]
  exact ⟨_, rfl⟩

/-- With as many heads as there may be levels, cutting halts on the line in the innermost. -/
lemma scan_nestedText {n k : Nat} (hk : k + n = levelLimit) (line : Nat) :
    ∃ whole, scan true line 0 (ladder (k - 1)) [] (nestedText k n) = .ok whole ∧
      ∃ p ∈ whole.list, p.lexeme = .halt .deepIndent := by
  have hlevels := levelsAt_ladder (k := k - 1) (m := k) (by omega)
  induction n generalizing k line with
  | zero =>
    obtain rfl : k = levelLimit := hk
    rw [if_pos (by decide)] at hlevels
    refine ⟨.halted .deepIndent line (4 * levelLimit) [], ?_, _, List.mem_cons_self, rfl⟩
    rw [nestedText, scan_spaces, Nat.zero_add]
    exact scan_halted (by decide) hlevels
  | succ n ih =>
    rw [if_neg (by omega)] at hlevels
    obtain ⟨ps, hps⟩ := scan_nestedHead line hlevels (nestedText (k + 1) n)
    obtain ⟨whole, hwhole, p, hp, hhalt⟩ :=
      ih (k := k + 1) (by omega) (line + 1) (levelsAt_ladder (by omega))
    rw [Nat.add_sub_cancel] at hwhole
    rw [nestedText, scan_spaces, Nat.zero_add, hps, hwhole]
    exact ⟨_, rfl, p, List.mem_append_right ps hp, hhalt⟩

end Script

end Flowline
