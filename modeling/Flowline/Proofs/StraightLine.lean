import Mathlib.Data.List.Forall2
import Mathlib.Logic.Function.Basic
import Mathlib.Tactic.Lemma
import Flowline.Proofs.Digits
import Flowline.Proofs.Grammar
import Flowline.Proofs.Indentation
import Flowline.Proofs.Words
import Flowline.Script.Phrase

/-!
Straight-line sources.

A straight-line source assigns integers, names and sums, differences and products of them to names,
and prints names. `evaluate` gives what its lines print over an environment of unbounded integers.

`Spells` says which lines of text write a list of commands: either word of an action, any mark, any
spacing, comments and blank lines between. Such a source has one statement for each command and is
compiled to one line of code for each.
-/

namespace Flowline.Straight

open Text

/-! ### Commands and what they print -/

/-- A name, or a whole number with or without a minus sign. -/
inductive Term
  | name (x : String)
  | whole (negative : Bool) (size : Nat)
deriving DecidableEq, Repr

inductive Operation
  | add | sub | mul
deriving DecidableEq, Repr

inductive Formula
  | term (a : Term)
  | operate (op : Operation) (a b : Term)
deriving DecidableEq, Repr

inductive Command
  | assign (x : String) (f : Formula)
  | print (x : String)
deriving DecidableEq, Repr

def Term.value (env : String → Int) : Term → Int
  | name x => env x
  | whole negative size => if negative then -(size : Int) else size

def Operation.apply : Operation → Int → Int → Int
  | add, a, b => a + b
  | sub, a, b => a - b
  | mul, a, b => a * b

def Formula.value (env : String → Int) : Formula → Int
  | term a => a.value env
  | operate op a b => op.apply (a.value env) (b.value env)

def Command.update (env : String → Int) : Command → String → Int
  | assign x f => Function.update env x (f.value env)
  | print _ => env

def Command.shown (env : String → Int) : Command → List Int
  | assign _ _ => []
  | print x => [env x]

def evaluate (env : String → Int) : List Command → List Int
  | [] => []
  | c :: cs => c.shown env ++ evaluate (c.update env) cs

/-! ### Names and their scope -/

def Term.names : Term → List String
  | name x => [x]
  | whole _ _ => []

def Formula.terms : Formula → List Term
  | term a => [a]
  | operate _ a b => [a, b]

def Command.terms : Command → List Term
  | assign _ f => f.terms
  | print x => [.name x]

def Command.assigned : Command → List String
  | assign x _ => [x]
  | print _ => []

def Command.names (c : Command) : List String := c.assigned ++ c.terms.flatMap Term.names

/-- Every name is assigned before it is read, given the names that are known at the beginning. -/
def Scoped (known : List String) : List Command → Prop
  | [] => True
  | c :: cs => (∀ t ∈ c.terms, ∀ x ∈ t.names, x ∈ known) ∧ Scoped (c.assigned ++ known) cs

def isIdentifierStart (c : Char) : Bool := c.isAlpha || c = '_'

def isIdentifierRest (c : Char) : Bool := c.isAlphanum || c = '_'

def isIdentifier : List Char → Bool
  | [] => false
  | c :: cs => isIdentifierStart c && cs.all isIdentifierRest

def functionNames : List String := ["print", "input", "float", "int", "str"]

structure IsVariable (x : String) : Prop where
  identifier : isIdentifier x.toList = true
  unreserved : x ∉ Script.reservedWords
  free : x ∉ functionNames

instance (x : String) : Decidable (IsVariable x) :=
  decidable_of_iff (isIdentifier x.toList = true ∧ x ∉ Script.reservedWords ∧ x ∉ functionNames)
    ⟨fun ⟨h, hr, hf⟩ => ⟨h, hr, hf⟩, fun h => ⟨h.identifier, h.unreserved, h.free⟩⟩

/-- All names of a command can be variables. -/
def Command.IsNamed (c : Command) : Prop := ∀ x ∈ c.names, IsVariable x

instance (c : Command) : Decidable c.IsNamed :=
  inferInstanceAs (Decidable (∀ x ∈ c.names, IsVariable x))

instance decidableScoped : (known : List String) → (cs : List Command) → Decidable (Scoped known cs)
  | _, [] => isTrue trivial
  | known, c :: cs =>
    have := decidableScoped (c.assigned ++ known) cs
    inferInstanceAs (Decidable (_ ∧ _))

/-! ### Spelling -/

def Term.text : Term → String
  | name x => x
  | whole negative size => (if negative then "-" else "") ++ toString size

def Operation.action : Operation → Action
  | add => .add
  | sub => .sub
  | mul => .mul

def Formula.action : Formula → Action
  | term _ => .set
  | operate op _ _ => op.action

def Command.action : Command → Action
  | assign _ f => f.action
  | print _ => .print

def Command.args : Command → List String
  | assign x f => x :: f.terms.map Term.text
  | print x => [x]

/-- The words are those of the command, with a mark or without. -/
def Command.IsSpelled (c : Command) (ws : List String) : Prop :=
  ∃ word, c.action.IsForm word ∧
    (ws = word :: c.args ∨ ∃ mark ∈ lineStates, ws = mark :: word :: c.args)

/-- The words of a line before a comment. -/
def lineWords (line : List Char) : List String :=
  (words isBlank (beforeHash line)).map String.ofList

/-- The lines spell the commands; the flag says whether a block comment is open before them. -/
inductive Spells : Bool → List (List Char) → List Command → Prop
  | done {inComment : Bool} : Spells inComment [] []
  | fence {inComment : Bool} {line : List Char} {lines : List (List Char)} {cs : List Command}
      (h : trim isBlank line = ['~', '~']) (rest : Spells (!inComment) lines cs) :
      Spells inComment (line :: lines) cs
  | hidden {line : List Char} {lines : List (List Char)} {cs : List Command}
      (h : trim isBlank line ≠ ['~', '~']) (rest : Spells true lines cs) :
      Spells true (line :: lines) cs
  | empty {line : List Char} {lines : List (List Char)} {cs : List Command}
      (h : lineWords line = []) (rest : Spells false lines cs) : Spells false (line :: lines) cs
  | command {line : List Char} {lines : List (List Char)} {c : Command} {cs : List Command}
      (h : c.IsSpelled (lineWords line)) (rest : Spells false lines cs) :
      Spells false (line :: lines) (c :: cs)

/-! ### Tokens -/

def IsTokenOf (t : Token) (c : Command) : Prop :=
  t.state ∈ lineStates ∧ c.action.IsForm t.action ∧ t.args = c.args

lemma form_plain {a : Action} {word : String} (h : a.IsForm word) :
    isLineState word = false ∧ word ∉ blockEndWords ∧ Token.colonName? word = none ∧
      word ≠ "~~" := by
  cases a <;> rcases h with rfl | rfl <;> decide

lemma lineWords_of_fence {line : List Char} (h : trim isBlank line = ['~', '~']) :
    lineWords line = ["~~"] := by
  rw [lineWords, ← words_beforeHash_trim (by decide), h]
  decide

lemma Command.IsSpelled.token {c : Command} {ws : List String} (h : c.IsSpelled ws) :
    ∃ t, Token.ofWords ws = some t ∧ IsTokenOf t c := by
  obtain ⟨word, hform, rfl | ⟨mark, hmark, rfl⟩⟩ := h
  · exact ⟨⟨word, c.args, "~"⟩, by simp [Token.ofWords, (form_plain hform).1],
      by simp [lineStates], hform, rfl⟩
  · have hstate : isLineState mark = true := by simpa [isLineState] using hmark
    exact ⟨⟨word, c.args, mark⟩, by simp [Token.ofWords, hstate], hmark, hform, rfl⟩

lemma Command.IsSpelled.ne_fence {c : Command} {line : List Char}
    (h : c.IsSpelled (lineWords line)) : trim isBlank line ≠ ['~', '~'] := by
  intro hfence
  rw [lineWords_of_fence hfence] at h
  obtain ⟨word, hform, hws | ⟨mark, hmark, hws⟩⟩ := h
  · exact (form_plain hform).2.2.2 (List.cons.inj hws).1.symm
  · exact absurd (List.cons.inj hws).2 (by simp)

lemma Spells.tokens {b : Bool} {lines : List (List Char)} {cs : List Command}
    (h : Spells b lines cs) :
    List.Forall₂ IsTokenOf ((readLines isBlank b lines).filterMap Reading.token) cs := by
  induction h with
  | done => exact .nil
  | fence h rest ih =>
    simpa [readLine, h, Reading.nothing] using ih
  | hidden h rest ih =>
    simpa [readLine, h, Reading.nothing] using ih
  | @empty line lines cs h rest ih =>
    -- a fence has a word, so an empty line is none
    have hline : trim isBlank line ≠ ['~', '~'] := by
      intro hfence
      rw [lineWords_of_fence hfence] at h
      cases h
    obtain ⟨hstate, htoken⟩ := readLine_eq_words (p := isBlank) (by decide) hline
    have hnone : (readLine isBlank false line).2.token = none := by
      rw [htoken]
      change Token.ofWords (lineWords line) = none
      rw [h]
      rfl
    rw [readLines_cons, List.filterMap_cons_none hnone, hstate]
    exact ih
  | @command line lines c cs h rest ih =>
    obtain ⟨hstate, htoken⟩ := readLine_eq_words (p := isBlank) (by decide) h.ne_fence
    obtain ⟨t, ht, hc⟩ := h.token
    have hsome : (readLine isBlank false line).2.token = some t := htoken.trans ht
    rw [readLines_cons, List.filterMap_cons_some hsome, hstate]
    exact .cons hc ih

/-! ### Characters of names and numbers -/

def isTermChar (c : Char) : Bool := isIdentifierRest c || c = '-'

lemma ascii_of_isTermChar {c : Char} (h : isTermChar c = true) : c.toNat < 128 := by
  simp only [isTermChar, isIdentifierRest, Bool.or_eq_true, decide_eq_true_eq] at h
  rcases h with (h | rfl) | rfl
  · exact ascii_of_isAlphanum h
  · decide
  · decide

lemma isIdentifierRest_of_start {c : Char} (h : isIdentifierStart c = true) :
    isIdentifierRest c = true := by
  simp only [isIdentifierStart, isIdentifierRest, Char.isAlphanum, Bool.or_eq_true] at h ⊢
  tauto

lemma isNameRest_of_isIdentifierRest {c : Char} (h : isIdentifierRest c = true) :
    isNameRest c = true := by
  refine ascii_forall (P := fun c => isIdentifierRest c = true → isNameRest c = true) ?_
    (ascii_of_isTermChar (by simp [isTermChar, h])) h
  decide +kernel

lemma isNameStart_of_isIdentifierStart {c : Char} (h : isIdentifierStart c = true) :
    isNameStart c = true := by
  refine ascii_forall (P := fun c => isIdentifierStart c = true → isNameStart c = true) ?_
    (ascii_of_isTermChar (by simp [isTermChar, isIdentifierRest_of_start h])) h
  decide +kernel

lemma IsVariable.cons {x : String} (h : IsVariable x) :
    ∃ c cs, x.toList = c :: cs ∧ isIdentifierStart c = true ∧
      ∀ d ∈ c :: cs, isIdentifierRest d = true := by
  have hx := h.identifier
  cases hc : x.toList with
  | nil => simp [hc, isIdentifier] at hx
  | cons c cs =>
    simp only [hc, isIdentifier, Bool.and_eq_true, List.all_eq_true] at hx
    refine ⟨c, cs, rfl, hx.1, fun d hd => ?_⟩
    rcases List.mem_cons.mp hd with rfl | hd
    · exact isIdentifierRest_of_start hx.1
    · exact hx.2 d hd

lemma IsVariable.isName {x : String} (h : IsVariable x) : isName x = true := by
  obtain ⟨c, cs, hx, hstart, hrest⟩ := h.cons
  rw [Flowline.isName, hx, Text.isName, Bool.and_eq_true, List.all_eq_true]
  exact ⟨isNameStart_of_isIdentifierStart hstart,
    fun d hd => isNameRest_of_isIdentifierRest (hrest d (List.mem_cons_of_mem c hd))⟩

lemma toList_whole (negative : Bool) (n : Nat) :
    (Term.whole negative n).text.toList = signedDigits negative n := by
  rw [Term.text, String.toList_append, toList_toString]
  cases negative <;> rfl

lemma Term.isTermChar {t : Term} (h : ∀ x ∈ t.names, IsVariable x) {c : Char}
    (hc : c ∈ t.text.toList) : isTermChar c = true := by
  cases t with
  | name x =>
    obtain ⟨d, ds, hx, -, hrest⟩ := (h x (by simp [names])).cons
    rw [text, hx] at hc
    simp [Straight.isTermChar, hrest c hc]
  | whole negative n =>
    rw [toList_whole] at hc
    rcases mem_signedDigits hc with rfl | hd
    · rfl
    · simp [Straight.isTermChar, isIdentifierRest, Char.isAlphanum, hd]

/-- A word with a character that no term has is not the word of a term. -/
lemma Term.text_ne {t : Term} (h : ∀ x ∈ t.names, IsVariable x) {word : String}
    (hword : ∃ c ∈ word.toList, Straight.isTermChar c = false) : t.text ≠ word := by
  rintro rfl
  obtain ⟨c, hc, hno⟩ := hword
  rw [Term.isTermChar h hc] at hno
  cases hno

lemma isNumeral_whole (negative : Bool) (n : Nat) :
    isNumeral (Term.whole negative n).text = true := by
  rw [← String.ofList_toList (s := (Term.whole negative n).text), toList_whole]
  exact isNumeral_signedDigits negative n

/-! ### Code -/

def Operation.sign : Operation → String
  | add => "+"
  | sub => "-"
  | mul => "*"

def Formula.code : Formula → String
  | term a => a.text
  | operate op a b => a.text ++ " " ++ op.sign ++ " " ++ b.text

def Command.code : Command → String
  | assign x f => x ++ " = " ++ f.code
  | print x => "print(" ++ x ++ ")"

def program (cs : List Command) : String := "\n".intercalate (cs.map Command.code)

lemma Command.IsNamed.term {c : Command} (h : c.IsNamed) {t : Term} (ht : t ∈ c.terms) :
    ∀ x ∈ t.names, IsVariable x :=
  fun x hx => h x (List.mem_append_right _ (List.mem_flatMap.mpr ⟨t, ht, hx⟩))

lemma Command.IsNamed.target {x : String} {f : Formula} (h : (Command.assign x f).IsNamed) :
    IsVariable x :=
  h x (by simp [names, assigned])

lemma IsVariable.term {x : String} (h : IsVariable x) :
    ∀ y ∈ (Term.name x).names, IsVariable y := by
  intro y hy
  obtain rfl := List.mem_singleton.mp hy
  exact h

lemma Term.text_ne_empty {t : Term} (h : ∀ x ∈ t.names, IsVariable x) : t.text ≠ "" := by
  cases t with
  | name x =>
    obtain ⟨c, cs, hx, -⟩ := (h x (by simp [names])).cons
    rintro rfl
    cases hx
  | whole negative n =>
    intro hempty
    have hlist := toList_whole negative n
    rw [hempty] at hlist
    cases negative with
    | false => exact digits_ne_nil n hlist.symm
    | true => cases hlist

lemma Term.constant?_text {t : Term} (h : ∀ x ∈ t.names, IsVariable x) :
    constant? t.text = none := by
  have htrue : t.text ≠ "真" := text_ne h (exists_mem_of_any (by decide +kernel))
  have hfalse : t.text ≠ "假" := text_ne h (exists_mem_of_any (by decide +kernel))
  have hreserved : t.text ∉ ["True", "False", "None"] := by
    cases t with
    | name x =>
      have hx := (h x (by simp [names])).unreserved
      intro hm
      refine hx ?_
      revert hm
      simp only [text, Script.reservedWords, List.mem_cons, List.not_mem_nil, or_false]
      tauto
    | whole negative n =>
      intro hm
      -- the words for constants are not numbers, those of whole numbers are
      have hword : isNumeral (whole negative n).text = false := by
        generalize (whole negative n).text = word at hm
        simp only [List.mem_cons, List.not_mem_nil, or_false] at hm
        rcases hm with rfl | rfl | rfl <;> decide +kernel
      rw [isNumeral_whole] at hword
      cases hword
  simp only [List.mem_cons, List.not_mem_nil, or_false, not_or] at hreserved
  simp [constant?, htrue, hfalse, hreserved]

lemma Term.operand_text {t : Term} (h : ∀ x ∈ t.names, IsVariable x) : operand t.text = t.text := by
  have hempty : t.text.isEmpty = false := by simpa using text_ne_empty h
  have hkind : (isNumeral t.text || isName t.text) = true := by
    cases t with
    | name x => simp [text, (h x (by simp [names])).isName]
    | whole negative n => simp [isNumeral_whole]
  simp [operand, hempty, constant?_text h, hkind]

lemma Term.notMem_callableWords {t : Term} (h : ∀ x ∈ t.names, IsVariable x) :
    t.text ∉ callableWords := by
  have hnumber : t.text ≠ "读数" := text_ne h (exists_mem_of_any (by decide +kernel))
  have hsign : t.text ≠ "读运算符" := text_ne h (exists_mem_of_any (by decide +kernel))
  cases t with
  | name x =>
    have hx := (h x (by simp [names])).free
    simp only [text, callableWords, functionNames, List.mem_cons, List.not_mem_nil, or_false,
      not_or] at hx hnumber hsign ⊢
    tauto
  | whole negative n =>
    intro hm
    have hword : isNumeral (whole negative n).text = false := by
      generalize (whole negative n).text = word at hm
      simp only [callableWords, List.mem_cons, List.not_mem_nil, or_false] at hm
      rcases hm with rfl | rfl | rfl | rfl | rfl | rfl <;> decide +kernel
    rw [isNumeral_whole] at hword
    cases hword

lemma Command.code_eq {c : Command} (h : c.IsNamed) : c.action.code c.args = .ok c.code := by
  cases c with
  | print x =>
    have hx := (h x (by simp [names, terms, Term.names])).isName
    simp [action, args, code, Action.code, printCode, hx]
  | assign x f =>
    have hx := h.target.isName
    cases f with
    | term a =>
      have ha := h.term (t := a) (by simp [terms, Formula.terms])
      have hcall : callableWords.contains a.text = false := by
        simpa using a.notMem_callableWords ha
      simp only [action, Formula.action, args, Formula.terms, List.map_cons, List.map_nil,
        Action.code, setCode, hx, if_true, assignedText, hcall, Bool.false_eq_true, if_false,
        a.operand_text ha]
      rfl
    | operate op a b =>
      have ha := a.operand_text (h.term (t := a) (by simp [terms, Formula.terms]))
      have hb := b.operand_text (h.term (t := b) (by simp [terms, Formula.terms]))
      cases op <;>
        simp [action, Formula.action, Operation.action, args, Formula.terms, Action.code,
          arithmeticCode, hx, ha, hb, code, Formula.code, Operation.sign, String.append_assoc]

/-! ### The program of a source -/

def IsStatementOf (s : Statement) (c : Command) : Prop :=
  ∃ state, s = .line c.action c.args state

lemma notMem_args {c : Command} (h : c.IsNamed) {word : String}
    (hword : ∃ d ∈ word.toList, isTermChar d = false) : word ∉ c.args := by
  have hterm : ∀ t : Term, (∀ x ∈ t.names, IsVariable x) → word ≠ t.text :=
    fun t ht => (Term.text_ne ht hword).symm
  cases c with
  | print x =>
    have := hterm (.name x) (h.term (by simp [Command.terms]))
    simpa [Command.args, Term.text] using this
  | assign x f =>
    have hx := hterm (.name x) h.target.term
    intro hm
    rcases List.mem_cons.mp hm with rfl | hm
    · exact hx rfl
    · obtain ⟨t, ht, rfl⟩ := List.mem_map.mp hm
      exact hterm t (h.term ht) rfl

lemma IsTokenOf.statement {t : Token} {c : Command} (h : IsTokenOf t c) (hc : c.IsNamed) :
    ∃ s, t.statement = .ok s ∧ IsStatementOf s c := by
  obtain ⟨hstate, hform, hargs⟩ := h
  obtain ⟨-, hend, hcolon, -⟩ := form_plain hform
  refine ⟨.line c.action t.args t.state, Token.statement_of_writes ?_, t.state, by rw [hargs]⟩
  have hright : "->" ∉ t.args := hargs ▸ notMem_args hc (exists_mem_of_any (by decide +kernel))
  have hleft : "<-" ∉ t.args := hargs ▸ notMem_args hc (exists_mem_of_any (by decide +kernel))
  exact .line ⟨hend, hstate⟩ ((Token.colonName?_eq_none_iff t).mp hcolon) hright hleft hform

lemma mapM_statement_of_tokens {ts : List Token} {cs : List Command}
    (h : List.Forall₂ IsTokenOf ts cs) (hnamed : ∀ c ∈ cs, c.IsNamed) :
    ∃ ss, ts.mapM Token.statement = .ok ss ∧ List.Forall₂ IsStatementOf ss cs := by
  induction h with
  | nil => exact ⟨[], rfl, .nil⟩
  | @cons t c ts cs ht _ ih =>
    obtain ⟨s, hs, hsc⟩ := ht.statement (hnamed c (by simp))
    obtain ⟨ss, hss, hall⟩ := ih fun d hd => hnamed d (List.mem_cons_of_mem c hd)
    refine ⟨s :: ss, ?_, .cons hsc hall⟩
    rw [List.mapM_cons, hs, hss]
    rfl

/-- A source that spells commands is accepted, with one statement for each of them. -/
theorem parse_of_spells {source : String} {cs : List Command}
    (h : Spells false (sourceLines source.toList) cs) (hnamed : ∀ c ∈ cs, c.IsNamed) :
    ∃ p, parse source = .ok p ∧ List.Forall₂ IsStatementOf p.statements cs := by
  have htokens : List.Forall₂ IsTokenOf ((tokenize source).map Prod.fst) cs := by
    rw [tokenize, numberedTokens_map_fst]
    exact h.tokens
  obtain ⟨ss, hss, hall⟩ := mapM_statement_of_tokens htokens hnamed
  have hlen : ss.length ≤ (((tokenize source).map Prod.fst).map Token.endsSegment).length := by
    rw [List.length_map, hall.length_eq, htokens.length_eq]
  refine ⟨.ofFlagged (ss.zip (((tokenize source).map Prod.fst).map Token.endsSegment)), ?_, ?_⟩
  · rw [parse, parseTokens, hss]
    rfl
  · rw [Program.statements_ofFlagged, List.map_fst_zip hlen]
    exact hall

lemma Command.action_mem_simpleActions (c : Command) : c.action ∈ simpleActions := by
  rcases c with ⟨x, a | ⟨op, a, b⟩⟩ | x
  · simp [action, Formula.action, simpleActions]
  · cases op <;> simp [action, Formula.action, Operation.action, simpleActions]
  · simp [action, simpleActions]

lemma emits_of_statements {ss : List Statement} {cs : List Command}
    (h : List.Forall₂ IsStatementOf ss cs) (hnamed : ∀ c ∈ cs, c.IsNamed) (ended : Bool) :
    ∃ j rows, Emits ⟨0, ended⟩ ss j rows ∧ rows.map Row.text = cs.map Command.code := by
  induction h generalizing ended with
  | nil => exact ⟨_, [], Emits.nil _, rfl⟩
  | @cons s c ss cs hs _ ih =>
    obtain ⟨state, rfl⟩ := hs
    obtain ⟨l, hl, haction, hcode⟩ : ∃ l : CodeLine,
        l.statement = .line c.action c.args state ∧ l.action = c.action ∧ l.text = c.code :=
      ⟨⟨c.action, c.args, state, c.code, Command.code_eq (hnamed c (by simp))⟩, rfl, rfl, rfl⟩
    have hline := emits_simple 0 ended l (haction ▸ c.action_mem_simpleActions)
    rw [hl] at hline
    obtain ⟨j, rows, hrows, htext⟩ := ih (fun d hd => hnamed d (List.mem_cons_of_mem c hd)) false
    refine ⟨j, [⟨0, l⟩] ++ rows, hline.cons hrows, ?_⟩
    rw [List.map_append, htext]
    simp [Row.text, Indent.pad, hcode]

/-- Statements of commands are compiled to the program of the commands. -/
theorem compile_of_statements {p : Program Statement} {cs : List Command}
    (h : List.Forall₂ IsStatementOf p.statements cs) (hnamed : ∀ c ∈ cs, c.IsNamed) :
    p.compile.code = .ok (program cs) := by
  obtain ⟨j, rows, hrows, htext⟩ := emits_of_statements h hnamed false
  have hemit : emitAll {} p.statements = ⟨j, rows.map Row.text, p.statements.length, none⟩ := hrows
  simp only [Program.compile, hemit, htext, program]

end Flowline.Straight
