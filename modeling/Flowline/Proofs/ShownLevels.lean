import Flowline.Proofs.Formatting
import Flowline.Proofs.Marks

/-!
The levels of the compiler and the levels on the screen.

Formatting and compiling go through the same lines with a level each. The compiler counts by what
the statements are, formatting by how the lines look: their first word, and the colon at their end.
Formatting also counts named blocks, over which the compiler passes. Where lines look like what they
are, the two stay in step: the level on the screen is that of the compiler and one more for every
named block that is counted. A block end takes from the level of the compiler as long as there is
one, and from the named blocks afterwards.
-/

namespace Flowline

open Text

/-! ### The lines of a compiled program -/

/-- The number of named blocks that are counted at a statement, if there are `n` before it. Each named
block adds one. A block end or a later clause takes one away only where it finds the compiler at
level 0; further in it leaves a level of the compiler, even if the block that it ends is a named
one. -/
def Statement.named (i : Indent) (n : Nat) : Statement → Nat
  | line action _ _ => if action.continuesChain = true ∧ i.level = 0 then n - 1 else n
  | block _ _ => n + 1
  | blockEnd _ => if i.level = 0 then n - 1 else n
  | arrow _ _ _ _ => n

/-- A line of a source that compiles to a line. -/
structure PlacedLine where
  number : Nat
  action : Action
  args : List String
  /-- Whether the compiler has just left a block. -/
  afterEnd : Bool
  /-- The level of the compiled line. -/
  level : Nat
  /-- The number of named blocks that are counted at the line. -/
  named : Nat
deriving DecidableEq, Repr

def PlacedLine.text (l : PlacedLine) : String :=
  ({ level := l.level } : Indent).pad ++ (l.action.code l.args).toOption.getD ""

def Statement.placed? (i : Indent) (n number : Nat) : Statement → Option PlacedLine
  | line action args state =>
    some ⟨number, action, args, i.afterEnd, (i.forAction action).level,
      (line action args state).named i n⟩
  | _ => none

def placedLines (i : Indent) (n : Nat) : List (Statement × Nat) → List PlacedLine
  | [] => []
  | (s, number) :: rest =>
    (s.placed? i n number).toList ++ placedLines (s.emit i).1 (s.named i n) rest

def statementsOf (xs : List (Token × Nat)) : List (Statement × Nat) :=
  xs.filterMap fun (t, number) => t.statement.toOption.map (·, number)

/-- The lines of a source that compile to lines. -/
def sourcePlaces (source : String) : List PlacedLine :=
  placedLines {} 0 (statementsOf (tokenize source))

lemma emit_eq_ok {i j : Indent} {s : Statement} {out : Option String} (h : s.emit i = (j, .ok out))
    (n number : Nat) : out = (s.placed? i n number).map PlacedLine.text := by
  cases s with
  | line action args state =>
    rcases hcode : action.code args with e | text
    · simp [Statement.emit, Indent.write, hcode] at h
    · simp only [Statement.emit, Indent.write, hcode, Prod.mk.injEq, Except.ok.injEq] at h
      rw [← h.2]
      simp [Statement.placed?, PlacedLine.text, hcode, Except.toOption, Indent.pad]
  | block name state => exact (Except.ok.inj (Prod.mk.inj h).2).symm
  | blockEnd state => exact (Except.ok.inj (Prod.mk.inj h).2).symm
  | arrow source target direction state => exact (Except.ok.inj (Prod.mk.inj h).2).symm

lemma lines_emitAll {i : Indent} {xs : List (Statement × Nat)}
    (h : (emitAll i (xs.map Prod.fst)).refused = none) (n : Nat) :
    (emitAll i (xs.map Prod.fst)).lines = (placedLines i n xs).map PlacedLine.text := by
  induction xs generalizing i n with
  | nil => rfl
  | cons x xs ih =>
    obtain ⟨s, number⟩ := x
    simp only [List.map_cons, emitAll] at h ⊢
    rcases hs : s.emit i with ⟨j, e | out⟩
    · simp [hs] at h
    · rw [hs] at h
      have htail := ih h (s.named i n)
      simp only [placedLines, hs, List.map_append, ← htail, emit_eq_ok hs n number]
      cases s.placed? i n number <;> rfl

lemma statementsOf_cons_ok {t : Token} {s : Statement} (h : t.statement = .ok s) (number : Nat)
    (xs : List (Token × Nat)) :
    statementsOf ((t, number) :: xs) = (s, number) :: statementsOf xs := by
  unfold statementsOf
  simp only [List.filterMap_cons, h]
  rfl

lemma statementsOf_of_mapM {xs : List (Token × Nat)} {ss : List Statement}
    (h : (xs.map Prod.fst).mapM Token.statement = .ok ss) :
    (statementsOf xs).map Prod.fst = ss := by
  induction xs generalizing ss with
  | nil =>
    obtain rfl := Except.ok.inj h
    rfl
  | cons x xs ih =>
    obtain ⟨t, number⟩ := x
    rw [List.map_cons, List.mapM_cons] at h
    rcases ht : t.statement with e | s
    · rw [ht] at h
      cases h
    · rcases hrest : (xs.map Prod.fst).mapM Token.statement with e | rest
      · rw [ht, hrest] at h
        cases h
      · rw [ht, hrest] at h
        obtain rfl := Except.ok.inj h
        rw [statementsOf_cons_ok ht, List.map_cons, ih hrest]

lemma code_eq_places {source : String} {p : Program Statement} {code : String}
    (hparse : parse source = .ok p) (hcode : p.compile.code = .ok code) :
    (emitAll {} p.statements).refused = none ∧
      code = "\n".intercalate ((sourcePlaces source).map PlacedLine.text) := by
  have hstatements := statementsOf_of_mapM (mapM_statement_of_ok hparse)
  simp only [Program.compile] at hcode
  rcases hrefused : (emitAll {} p.statements).refused with _ | e
  · rw [hrefused] at hcode
    rw [← hstatements] at hrefused
    rw [← Except.ok.inj hcode, ← hstatements, lines_emitAll hrefused 0]
    exact ⟨rfl, rfl⟩
  · rw [hrefused] at hcode
    cases hcode

/-! ### How lines look -/

def Statement.role : Statement → Editor.LineRole
  | line action _ _ =>
    if action.continuesChain then .clause else if action.opensBlock then .open_ else .plain
  | block _ _ => .open_
  | blockEnd _ => .close
  | arrow _ _ _ _ => .plain

namespace Editor

/-- Whether a word names a later clause of a chain, a colon at its end apart. -/
def namesClause (word : String) : Bool :=
  (Action.ofWord? (Token.dropColon word)).any Action.continuesChain

/-- A line that begins with `word` looks like its statement: it has a colon at its end if it opens a
block and none if it does not, and only later clauses begin with the word of one. -/
def LooksLike (word : String) (text : List Char) : Except ParseError Statement → Prop
  | .ok (.line action _ _) =>
    action.continuesChain = true ∨ (text.getLast? = some ':' ↔ action.opensBlock = true)
  | .ok (.block name _) =>
    text.getLast? = some ':' ∧ name ≠ "" ∧ isBlockEnd name = false ∧ namesClause word = false
  | .ok (.blockEnd _) => True
  | .ok (.arrow _ _ _ _) => text.getLast? ≠ some ':' ∧ namesClause word = false
  | .error _ => False

/-- A text looks like the token that is read from it. If there is none, the text is a comment or
has no comment in it. -/
def ShowsToken (text : List Char) : Option Token → Prop
  | none => text.head? = some '#' ∨ '#' ∉ text
  | some t => leadingWord? text = some t.action ∧ LooksLike t.action text t.statement

/-- A line looks like what is read from it outside block comments. -/
def Legible (text : List Char) : Prop :=
  ShowsToken text (readLine isEditorBlank false text).2.token

instance (word : String) (text : List Char) :
    (s : Except ParseError Statement) → Decidable (LooksLike word text s)
  | .ok (.line ..) => inferInstanceAs (Decidable (_ ∨ (_ ↔ _)))
  | .ok (.block ..) => inferInstanceAs (Decidable (_ ∧ _ ∧ _ ∧ _))
  | .ok (.blockEnd _) => inferInstanceAs (Decidable True)
  | .ok (.arrow ..) => inferInstanceAs (Decidable (_ ∧ _))
  | .error _ => inferInstanceAs (Decidable False)

instance (text : List Char) : (t : Option Token) → Decidable (ShowsToken text t)
  | none => inferInstanceAs (Decidable (_ ∨ _))
  | some _ => inferInstanceAs (Decidable (_ ∧ _))

instance (text : List Char) : Decidable (Legible text) :=
  inferInstanceAs (Decidable (ShowsToken ..))

lemma roleOf_eq {text : List Char} {word : String} (h : leadingWord? text = some word) :
    roleOf text =
      if isBlockEnd word then .close
      else if namesClause word then .clause
      else if !(Token.dropColon word).isEmpty && text.getLast? == some ':' &&
        !isBlockEnd (Token.dropColon word) then .open_
      else .plain := by
  unfold roleOf
  rw [h]
  rfl

/-- No action is called nothing or by a word that closes a block. -/
lemma action_word {word : String} {a : Action} (h : Action.ofWord? word = some a) :
    word.isEmpty = false ∧ isBlockEnd word = false := by
  rcases Action.ofWord?_eq_some_iff.mp h with rfl | rfl <;> cases a <;> decide

lemma roleOf_of_action {word : String} {text : List Char} {a : Action}
    (hword : leadingWord? text = some word) (hend : isBlockEnd word = false)
    (ha : Action.ofWord? (Token.dropColon word) = some a) {args : List String} {mark : String}
    (h : LooksLike word text (.ok (.line a args mark))) :
    roleOf text = (Statement.line a args mark).role := by
  obtain ⟨hname, hnoend⟩ := action_word ha
  have hclause : namesClause word = a.continuesChain := by
    rw [namesClause, ha]
    rfl
  rw [roleOf_eq hword, hend, hclause, hname, hnoend]
  cases hcont : a.continuesChain with
  | true => simp [Statement.role, hcont]
  | false =>
    have hcolon : text.getLast? = some ':' ↔ a.opensBlock = true := by
      simpa [LooksLike, hcont] using h
    cases hopen : a.opensBlock <;> simp_all [Statement.role]

/-- A line that looks like its statement has the role of the statement. -/
lemma roleOf_of_looksLike {t : Token} {s : Statement} {text : List Char}
    (hword : leadingWord? text = some t.action) (hs : t.statement = .ok s)
    (h : LooksLike t.action text (.ok s)) : roleOf text = s.role := by
  have hmarked (hm : t.IsMarked) : isBlockEnd t.action = false := by
    simpa [isBlockEnd] using hm.1
  have hnamed {name : String} (hname : t.action = name ++ ":") :
      Token.dropColon t.action = name := by
    rw [Token.dropColon, Token.colonName?_eq_some_iff.mpr hname]
    rfl
  cases Token.writes_of_ok hs with
  | blockEnd hend =>
    rw [roleOf_eq hword, if_pos ((isBlockEnd_iff _).mpr hend)]
    rfl
  | @clause name a hm hname ha =>
    have hform : Action.ofWord? name = some a := by
      simp only [colonForms, List.mem_cons, Prod.mk.injEq, List.not_mem_nil, or_false] at ha
      rcases ha with ⟨rfl, rfl⟩ | ⟨rfl, rfl⟩ | ⟨rfl, rfl⟩ | ⟨rfl, rfl⟩ | ⟨rfl, rfl⟩ | ⟨rfl, rfl⟩ <;>
        decide
    exact roleOf_of_action hword (hmarked hm) (by rw [hnamed hname, hform]) h
  | @block name hm hname ha =>
    obtain ⟨hlast, hne, hend, hclause⟩ := h
    rw [roleOf_eq hword, hmarked hm, hclause, hnamed hname, hlast, hend]
    simp [Statement.role, hne]
  | rightArrow hm hcolon hright =>
    obtain ⟨hlast, hclause⟩ := h
    rw [roleOf_eq hword, hmarked hm, hclause]
    simp [Statement.role, hlast]
  | leftArrow hm hcolon hright hleft =>
    obtain ⟨hlast, hclause⟩ := h
    rw [roleOf_eq hword, hmarked hm, hclause]
    simp [Statement.role, hlast]
  | @line a hm hcolon hright hleft ha =>
    have hword' : Token.dropColon t.action = t.action := by
      rw [Token.dropColon, (Token.colonName?_eq_none_iff t).mpr hcolon]
      rfl
    exact roleOf_of_action hword (hmarked hm) (by rw [hword', Action.ofWord?_eq_some_iff.mpr ha]) h

/-! ### One line -/

lemma leadingWord?_eq (text : List Char) :
    leadingWord? text =
      (Token.ofWords ((words isEditorBlank text).map String.ofList)).map Token.action := by
  unfold leadingWord?
  rcases (words isEditorBlank text).map String.ofList with _ | ⟨w, _ | ⟨a, args⟩⟩
  · rfl
  · simp only [Token.ofWords]
    split_ifs <;> rfl
  · simp only [Token.ofWords]
    split_ifs <;> rfl

lemma steps_of_nothing {text : List Char} (hfence : trim isEditorBlank text ≠ fence)
    (h : Legible text) (htoken : (readLine isEditorBlank false text).2.token = none) :
    stepsOut text = false ∧ stepsIn text = false := by
  unfold Legible at h
  rw [htoken] at h
  rcases h with hhash | hhash
  · simp [stepsOut, stepsIn, hhash]
  · have hwords := (readLine_eq_words (by decide) hfence).2
    rw [htoken, beforeHash_of_notMem hhash] at hwords
    have hrole : roleOf text = .plain := by
      unfold roleOf
      rw [leadingWord?_eq, ← hwords]
      rfl
    simp [stepsOut, stepsIn, hrole]

lemma role_of_token {text : List Char} {t : Token} (hfence : trim isEditorBlank text ≠ fence)
    (h : Legible text) (htoken : (readLine isEditorBlank false text).2.token = some t) :
    text.head? ≠ some '#' ∧ ∃ s, t.statement = .ok s ∧ roleOf text = s.role := by
  have hwords := (readLine_eq_words (by decide) hfence).2
  unfold Legible at h
  rw [htoken] at h hwords
  obtain ⟨hword, hlooks⟩ := h
  constructor
  · intro hhash
    obtain ⟨cs, rfl⟩ := List.head?_eq_some_iff.mp hhash
    simp [beforeHash, words_nil, Token.ofWords] at hwords
  · rcases hs : t.statement with e | s
    · rw [hs] at hlooks
      exact hlooks.elim
    · rw [hs] at hlooks
      exact ⟨s, rfl, roleOf_of_looksLike hword hs hlooks⟩

lemma readLine_trim (b : Bool) (l : List Char) :
    readLine isEditorBlank b (trim isEditorBlank l) = readLine isEditorBlank b l :=
  readLine_of_trim_eq (trim_trim isEditorBlank l) b

/-- What reading and formatting do on a line of a comment, on a blank line and on a fence. -/
lemma passed_line (unit : List Char) {l : List Char} {s : FormatState}
    (h : laidOut s.inComment [l] = []) :
    (formatLine (.nested unit) s l).1.level = s.level ∧
      (formatLine (.nested unit) s l).1.inComment = (readLine isEditorBlank s.inComment l).1 ∧
      (readLine isEditorBlank s.inComment l).2.token = none := by
  by_cases hfence : trim isEditorBlank l = fence
  · rw [formatLine_fence hfence]
    simp [readLine, hfence, fence, Reading.nothing]
  by_cases hblank : trim isEditorBlank l = []
  · rw [formatLine_blank hblank, ← readLine_trim, hblank, readLine_nil]
    exact ⟨rfl, rfl, rfl⟩
  rcases hs : s.inComment with _ | _
  · rw [hs, laidOut_code [] hblank hfence] at h
    cases h
  · rw [formatLine_comment hblank hfence hs]
    unfold fence at hfence
    simp [readLine, hfence, hs, Reading.nothing]

lemma laidOut_line (unit : List Char) {l text : List Char} {s : FormatState}
    (h : text ∈ laidOut s.inComment [l]) :
    text = trim isEditorBlank l ∧ text ≠ fence ∧ s.inComment = false ∧
      (readLine isEditorBlank s.inComment l).1 = false ∧
      formatLine (.nested unit) s l =
        (⟨standing text s.level + (if stepsIn text then 1 else 0), false⟩,
          indented unit (standing text s.level) text) := by
  by_cases hfence : trim isEditorBlank l = fence
  · rw [laidOut_fence [] hfence] at h
    cases h
  by_cases hblank : trim isEditorBlank l = []
  · rw [laidOut_blank [] hblank] at h
    cases h
  rcases hs : s.inComment with _ | _
  · rw [hs, laidOut_code [] hblank hfence] at h
    obtain rfl := List.mem_singleton.mp h
    refine ⟨rfl, hfence, rfl, (readLine_eq_words (by decide) hfence).1, ?_⟩
    rw [formatLine_code hblank hfence hs, hs]
  · rw [hs, laidOut_comment [] hfence] at h
    cases h

lemma laidOut_cons (b : Bool) (l : List Char) (ls : List (List Char)) :
    laidOut b (l :: ls) = laidOut b [l] ++ laidOut (readLine isEditorBlank b l).1 ls := by
  by_cases hfence : trim isEditorBlank l = fence
  · rw [laidOut_fence ls hfence, laidOut_fence [] hfence]
    simp [readLine, hfence, fence, laidOut]
  by_cases hblank : trim isEditorBlank l = []
  · rw [laidOut_blank ls hblank, laidOut_blank [] hblank, ← readLine_trim, hblank, readLine_nil]
    rfl
  cases b with
  | true =>
    rw [laidOut_comment ls hfence, laidOut_comment [] hfence]
    unfold fence at hfence
    simp [readLine, hfence, laidOut]
  | false =>
    rw [laidOut_code ls hblank hfence, laidOut_code [] hblank hfence,
      (readLine_eq_words (by decide) hfence).1]
    rfl

/-! ### The levels -/

section

variable {text : List Char} {i : Indent} {level n number : Nat} {s : Statement}

/-- A line stands on the screen at its level and that of the named blocks around it. -/
lemma standing_of_placed {l : PlacedLine} (hl : s.placed? i n number = some l)
    (hhash : text.head? ≠ some '#') (hrole : roleOf text = s.role) (hlevel : level = i.level + n)
    (hclause : l.action.continuesChain = true → l.afterEnd = true → l.level = 0) :
    standing text level = l.level + l.named := by
  cases s with
  | block name mark => cases hl
  | blockEnd mark => cases hl
  | arrow source target direction mark => cases hl
  | line action args mark =>
    obtain rfl := Option.some.inj hl
    simp only [Indent.forAction, Statement.named] at hclause ⊢
    cases hcont : action.continuesChain with
    | false =>
      have hout : stepsOut text = false := by
        cases hopen : action.opensBlock <;> simp [stepsOut, hrole, Statement.role, hcont, hopen]
      simp [standing, hout, hlevel]
    | true =>
      -- the screen takes a step outwards, from a named block if the compiler cannot
      have hout : stepsOut text = true := by simp [stepsOut, hrole, Statement.role, hcont, hhash]
      have hzero : i.afterEnd = true → i.level = 0 := by
        intro hafter
        simpa [hcont, hafter] using hclause hcont hafter
      simp only [standing, hout, if_true, Bool.true_and, true_and, Indent.shallower]
      cases hafter : i.afterEnd with
      | true =>
        have hlevel0 := hzero hafter
        simp only [hlevel0, Bool.not_true, Bool.false_eq_true, if_false, if_true]
        omega
      | false =>
        simp only [Bool.not_false, if_true]
        split_ifs <;> omega

lemma level_after {j : Indent} {out : Option String} (hok : s.emit i = (j, .ok out))
    (hhash : text.head? ≠ some '#') (hrole : roleOf text = s.role) (hlevel : level = i.level + n)
    (hclause : ∀ l, s.placed? i n number = some l →
      l.action.continuesChain = true → l.afterEnd = true → l.level = 0) :
    standing text level + (if stepsIn text then 1 else 0) = j.level + s.named i n := by
  cases s with
  | line action args mark =>
    rw [standing_of_placed rfl hhash hrole hlevel (hclause _ rfl)]
    have hin : stepsIn text = action.opensBlock := by
      have hopen : action.continuesChain = true → action.opensBlock = true := by
        cases action <;> decide
      cases hcont : action.continuesChain <;> cases hopens : action.opensBlock <;>
        simp_all [stepsIn, Statement.role]
    have hj : j.level = (i.forAction action).level + if action.opensBlock then 1 else 0 := by
      rcases hcode : action.code args with e | code
      · simp [Statement.emit, Indent.write, hcode] at hok
      · simp only [Statement.emit, Indent.write, hcode, Prod.mk.injEq] at hok
        rw [← hok.1]
        cases action.opensBlock <;> rfl
    simp only [hin, hj]
    omega
  | block name mark =>
    obtain ⟨rfl, -⟩ := Prod.mk.inj hok
    have hout : stepsOut text = false := by simp [stepsOut, hrole, Statement.role]
    have hin : stepsIn text = true := by simp [stepsIn, hrole, Statement.role, hhash]
    simp only [standing, hout, hin, Bool.false_eq_true, if_false, if_true, Statement.named]
    omega
  | blockEnd mark =>
    obtain ⟨rfl, -⟩ := Prod.mk.inj hok
    have hout : stepsOut text = true := by simp [stepsOut, hrole, Statement.role, hhash]
    have hin : stepsIn text = false := by simp [stepsIn, hrole, Statement.role]
    simp only [standing, hout, hin, Bool.false_eq_true, if_false, if_true, Statement.named,
      Indent.shallower]
    split_ifs <;> omega
  | arrow source target direction mark =>
    obtain ⟨rfl, -⟩ := Prod.mk.inj hok
    have hout : stepsOut text = false := by simp [stepsOut, hrole, Statement.role]
    have hin : stepsIn text = false := by simp [stepsIn, hrole, Statement.role]
    simp only [standing, hout, hin, Bool.false_eq_true, if_false, Statement.named]
    omega

end

def leadingSpaces (l : List Char) : Nat := (l.takeWhile (· == ' ')).length

lemma leadingSpaces_indented (k level : Nat) (l : List Char) :
    leadingSpaces (indented (List.replicate k ' ') level (trim isEditorBlank l)) = k * level := by
  have hhead : (trim isEditorBlank l).takeWhile (· == ' ') = [] := by
    rcases htrim : trim isEditorBlank l with _ | ⟨c, cs⟩
    · rfl
    · have hc : c ≠ ' ' := by
        rintro rfl
        exact absurd (not_blank_of_trim htrim) (by decide)
      simp [hc]
  unfold leadingSpaces indented
  rw [List.flatten_replicate_replicate, List.takeWhile_append_of_pos (by simp), hhead]
  simp [Nat.mul_comm]

/-! ### All lines -/

def statementsFrom (number : Nat) (b : Bool) (ls : List (List Char)) : List (Statement × Nat) :=
  statementsOf (((readLines isEditorBlank b ls).zipIdx number).filterMap fun (r, m) =>
    r.token.map (·, m))

lemma statementsFrom_nothing {b : Bool} {l : List Char}
    (h : (readLine isEditorBlank b l).2.token = none) (number : Nat) (ls : List (List Char)) :
    statementsFrom number b (l :: ls) =
      statementsFrom (number + 1) (readLine isEditorBlank b l).1 ls := by
  unfold statementsFrom
  rw [readLines_cons, List.zipIdx_cons, List.filterMap_cons_none (by simp [h])]

lemma statementsFrom_token {b : Bool} {l : List Char} {t : Token} {s : Statement}
    (h : (readLine isEditorBlank b l).2.token = some t) (hs : t.statement = .ok s) (number : Nat)
    (ls : List (List Char)) :
    statementsFrom number b (l :: ls) =
      (s, number) :: statementsFrom (number + 1) (readLine isEditorBlank b l).1 ls := by
  unfold statementsFrom
  simp only [readLines_cons, List.zipIdx_cons, List.filterMap_cons, h, Option.map_some]
  exact statementsOf_cons_ok hs number _

/-- The line is shown among lines of which the first has the given number, with `k` spaces for its
level and for every named block that is counted at it. -/
def ShownAt (k number : Nat) (shown : List (List Char)) (l : PlacedLine) : Prop :=
  ∃ m line, l.number = number + m ∧ shown[m]? = some line ∧
    leadingSpaces line = k * (l.level + l.named)

lemma ShownAt.cons {k number : Nat} {shown : List (List Char)} {l : PlacedLine}
    (h : ShownAt k (number + 1) shown l) (first : List Char) :
    ShownAt k number (first :: shown) l := by
  obtain ⟨m, line, hnumber, hline, hspaces⟩ := h
  exact ⟨m + 1, line, by omega, by simpa using hline, hspaces⟩

/-- From states that are in step, every line is shown at its level. -/
lemma shown_lines {k : Nat} {ls : List (List Char)} {s : FormatState} {i : Indent} {n number : Nat}
    (hlevel : s.level = i.level + n) (hlegible : ∀ text ∈ laidOut s.inComment ls, Legible text)
    (hok : (emitAll i ((statementsFrom number s.inComment ls).map Prod.fst)).refused = none)
    (hclauses : ∀ l ∈ placedLines i n (statementsFrom number s.inComment ls),
      l.action.continuesChain = true → l.afterEnd = true → l.level = 0) :
    ∀ l ∈ placedLines i n (statementsFrom number s.inComment ls),
      ShownAt k number (formatLines (.nested (List.replicate k ' ')) s ls) l := by
  induction ls generalizing s i n number with
  | nil => simp [statementsFrom, statementsOf, placedLines]
  | cons first ls ih =>
    rw [laidOut_cons] at hlegible
    have htail : ∀ text ∈ laidOut (readLine isEditorBlank s.inComment first).1 ls, Legible text :=
      fun text htext => hlegible text (List.mem_append_right _ htext)
    rw [formatLines_cons]
    rcases hlaid : laidOut s.inComment [first] with _ | ⟨text, others⟩
    · obtain ⟨hsame, hcomment, htoken⟩ := passed_line (List.replicate k ' ') hlaid
      rw [statementsFrom_nothing htoken] at hok hclauses ⊢
      rw [← hcomment] at htail hok hclauses ⊢
      exact fun l hl => (ih (hsame.trans hlevel) htail hok hclauses l hl).cons _
    have hmem : text ∈ laidOut s.inComment [first] := by simp [hlaid]
    have hlooks : Legible text := hlegible text (List.mem_append_left _ hmem)
    obtain ⟨rfl, hfence, hs, hread, hformat⟩ := laidOut_line (List.replicate k ' ') hmem
    have hfence' : trim isEditorBlank (trim isEditorBlank first) ≠ fence := by rwa [trim_trim]
    rw [hread] at htail
    rw [hformat]
    rcases htoken : (readLine isEditorBlank s.inComment first).2.token with _ | t
    · -- the line has a mark and nothing else, or is a comment
      rw [statementsFrom_nothing htoken, hread] at hok hclauses ⊢
      rw [hs, ← readLine_trim] at htoken
      obtain ⟨hout, hin⟩ := steps_of_nothing hfence' hlooks htoken
      simp only [standing, hout, hin, Bool.false_eq_true, if_false]
      exact fun l hl => (ih (s := ⟨s.level, false⟩) hlevel htail hok hclauses l hl).cons _
    · have htoken' := htoken
      rw [hs, ← readLine_trim] at htoken'
      obtain ⟨hhash, st, hst, hrole⟩ := role_of_token hfence' hlooks htoken'
      rw [statementsFrom_token htoken hst, hread] at hok hclauses ⊢
      rcases hemit : st.emit i with ⟨j, e | out⟩
      · simp [emitAll, hemit] at hok
      simp only [List.map_cons, emitAll, hemit] at hok
      simp only [placedLines, hemit, List.mem_append, Option.mem_toList] at hclauses ⊢
      have hnext := level_after hemit hhash hrole hlevel fun l hl => hclauses l (.inl hl)
      rintro l (hl | hl)
      · refine ⟨0, _, ?_, rfl, ?_⟩
        · cases st <;> cases hl
          rfl
        · have hstanding := standing_of_placed hl hhash hrole hlevel (hclauses l (.inl hl))
          rw [leadingSpaces_indented, hstanding]
      · exact (ih hnext htail hok (fun l hl => hclauses l (.inr hl)) l hl).cons _

/-! ### Documents and sources -/

/-- A source has the same statements on the same lines as a document. -/
lemma statementsFrom_document {source : String}
    (h : ∀ c ∈ source.toList, c.toNat ∉ disputed) :
    statementsFrom 1 false (Document.ofText source).lines = statementsOf (tokenize source) := by
  have hlines : (Document.ofText source).lines = pieces isLineBreak source.toList := by
    refine pieces_congr fun c hc => ?_
    rw [Bool.eq_iff_iff, lineBreak_iff (h c hc)]
    simp
  have hread := readLines_sourceLines h
  change statementsOf (numberedTokens (readLines isEditorBlank false _)) = _
  rw [hlines]
  rcases pieces_cases source.toList with hp | hp
  · rw [hp, hread]
    rfl
  · rw [hp, readLines_append_nil, numberedTokens_append_nothing, hread]
    rfl

/-- A choice in a procedure in a named block, and a line after it. -/
def namedRoutine : String :=
  "流程:\n定 f n:\n若 n:\n印 n # 数\n否则:\n空\n终\n终\n终\n调 f 1\n"

def namedLine : String := "流程:\n印 x\n终"

end Editor

end Flowline
