import Mathlib.Tactic.Lemma
import Flowline.Proofs.LineScans
import Flowline.Proofs.Phrases
import Flowline.Proofs.StraightLine

/-!
Reading the program of a straight-line source.

The text that the commands are compiled to is cut into pieces, the pieces are grouped into lines,
and every line is read as the statement of its command. Only a number with too many digits stands in
the way, and then the error names its line.
-/

namespace Flowline.Script

lemma bind_eq_ok_iff {ε α β : Type} {x : Except ε α} {f : α → Except ε β} {b : β} :
    x >>= f = .ok b ↔ ∃ a, x = .ok a ∧ f a = .ok b := by
  cases x <;> simp [bind, Except.bind]

lemma bind_eq_error_iff {ε α β : Type} {x : Except ε α} {f : α → Except ε β} {e : ε} :
    x >>= f = .error e ↔ x = .error e ∨ ∃ a, x = .ok a ∧ f a = .error e := by
  cases x <;> simp [bind, Except.bind]

end Flowline.Script

namespace Flowline.Straight

open Script

/-! ### Pieces -/

def Term.pieces (line blanks : Nat) : Term → List Piece
  | name x => [⟨.name x, line, blanks, 0⟩]
  | whole false n => [⟨wholeLexeme n, line, blanks, 0⟩]
  | whole true n => [⟨.sign "-", line, blanks, 0⟩, ⟨wholeLexeme n, line, 0, 0⟩]

def Formula.pieces (line : Nat) : Formula → List Piece
  | term a => a.pieces line 1
  | operate op a b => a.pieces line 1 ++ ⟨.sign op.sign, line, 1, 0⟩ :: b.pieces line 1

def Command.pieces (line : Nat) : Command → List Piece
  | assign x f => ⟨.name x, line, 0, 0⟩ :: ⟨.sign "=", line, 1, 0⟩ :: f.pieces line
  | print x =>
    [⟨.name "print", line, 0, 0⟩, ⟨.sign "(", line, 0, 1⟩, ⟨.name x, line, 0, 1⟩,
      ⟨.sign ")", line, 0, 0⟩]

def endPiece (line : Nat) : Piece := ⟨.lineEnd, line, 0, 0⟩

def piecesFrom (line : Nat) : List Command → List Piece
  | [] => []
  | c :: cs => c.pieces line ++ endPiece line :: piecesFrom (line + 1) cs

section

variable {fresh : Bool} {line blanks : Nat} {levels : List Nat} {opened : List Opening}

lemma scan_variable {x : String} (hx : IsVariable x) {rest : List Char}
    (haligned : Aligned fresh blanks levels) (hparted : Parted rest) :
    scan fresh line blanks levels opened (x.toList ++ rest) =
      ahead [⟨.name x, line, blanks, opened.length⟩] (scan false line 0 levels opened rest) := by
  obtain ⟨c, cs, hlist, hstart, hrest⟩ := hx.cons
  have hname : String.ofList (c :: cs) = x := by rw [← hlist, String.ofList_toList]
  rw [hlist, scan_name (isNameStart_of_isIdentifierStart hstart) _ _ haligned hparted, hname]
  · exact fun d hd => isNameRest_of_isIdentifierRest (hrest d (List.mem_cons_of_mem c hd))
  · exact fun d hd => ascii_of_isTermChar (by simp [isTermChar, hrest d hd])

/-- After a minus sign, the digits of a number make no sign of two characters with it. -/
lemma minus_standsAlone (n : Nat) (rest : List Char) : StandsAlone '-' (digits n ++ rest) := by
  obtain ⟨c, cs, hn, hc, -⟩ := digits_eq_cons n
  intro d hd
  obtain rfl : c = d := by simpa [hn] using hd
  have hangle : c ≠ '>' := by rintro rfl; cases hc
  simpa [doubleSigns] using hangle

lemma scan_term {t : Term} (ht : ∀ x ∈ t.names, IsVariable x) {rest : List Char}
    (hparted : Parted rest) :
    scan false line blanks levels [] (t.text.toList ++ rest) =
      ahead (t.pieces line blanks) (scan false line 0 levels [] rest) := by
  cases t with
  | name x => exact scan_variable (ht x (by simp [Term.names])) (.inl rfl) hparted
  | whole negative n =>
    rw [toList_whole]
    cases negative with
    | false => exact scan_digits n (.inl rfl) hparted
    | true =>
      rw [signedDigits, if_pos rfl, List.cons_append,
        scan_sign (by decide) (minus_standsAlone n rest) rfl (.inl rfl),
        scan_digits n (.inl rfl) hparted, ahead_ahead]
      rfl

/-- Every sign that stands between two blanks is a piece of its own. -/
lemma scan_spaced_sign {c : Char} (hc : c ∈ ['=', '+', '-', '*']) (rest : List Char) :
    scan false line 0 levels [] (' ' :: c :: ' ' :: rest) =
      ahead [⟨.sign (String.ofList [c]), line, 1, 0⟩] (scan false line 1 levels [] rest) := by
  have hall : ∀ d ∈ ['=', '+', '-', '*'], d ∈ plainSigns ∧ StandsAlone d (' ' :: rest) ∧
      bracketsAfter [] line d = .ok [] := by
    intro d hd
    simp only [List.mem_cons, List.not_mem_nil, or_false] at hd
    rcases hd with rfl | rfl | rfl | rfl <;>
      exact ⟨by decide, by simp [StandsAlone, doubleSigns], rfl⟩
  obtain ⟨hsign, halone, hnow⟩ := hall c hc
  rw [scan_space, scan_sign hsign halone hnow (.inl rfl), scan_space]
  rfl

lemma scan_formula {f : Formula} (hf : ∀ t ∈ f.terms, ∀ x ∈ t.names, IsVariable x)
    {rest : List Char} (hparted : Parted rest) :
    scan false line 1 levels [] (f.code.toList ++ rest) =
      ahead (f.pieces line) (scan false line 0 levels [] rest) := by
  cases f with
  | term a => exact scan_term (hf a (by simp [Formula.terms])) hparted
  | operate op a b =>
    have hsign : ∃ c ∈ ['=', '+', '-', '*'], op.sign = String.ofList [c] := by
      cases op <;> simp [Operation.sign]
    obtain ⟨c, hc, hsign⟩ := hsign
    have hlist : (Formula.operate op a b).code.toList ++ rest =
        a.text.toList ++ ' ' :: c :: ' ' :: (b.text.toList ++ rest) := by
      simp [Formula.code, hsign]
    rw [hlist, scan_term (hf a (by simp [Formula.terms])) (parted_cons _ (by decide)),
      scan_spaced_sign hc, scan_term (hf b (by simp [Formula.terms])) hparted, ahead_ahead,
      ahead_ahead, Formula.pieces, hsign, List.append_assoc]
    rfl

lemma scan_command {c : Command} (hc : c.IsNamed) {rest : List Char} (hparted : Parted rest) :
    scan true line 0 [] [] (c.code.toList ++ rest) =
      ahead (c.pieces line) (scan false line 0 [] [] rest) := by
  have haligned : Aligned true 0 [] := .inr rfl
  cases c with
  | assign x f =>
    have hlist : (Command.assign x f).code.toList ++ rest =
        x.toList ++ ' ' :: '=' :: ' ' :: (f.code.toList ++ rest) := by
      simp [Command.code]
    rw [hlist, scan_variable hc.target haligned (parted_cons _ (by decide)),
      scan_spaced_sign (by decide), scan_formula (fun t ht => hc.term ht) hparted, ahead_ahead,
      ahead_ahead]
    rfl
  | print x =>
    have hx : IsVariable x := hc x (by simp [Command.names, Command.terms, Term.names])
    have hlist : (Command.print x).code.toList ++ rest =
        'p' :: "rint".toList ++ '(' :: (x.toList ++ ')' :: rest) := by
      simp [Command.code]
    have hbracket : ∀ cs : List Char, StandsAlone '(' cs ∧ StandsAlone ')' cs := by
      simp [StandsAlone, doubleSigns]
    rw [hlist, scan_name (by decide +kernel) (forall_mem_of_all (by decide +kernel))
        (forall_mem_of_all (by decide)) haligned (parted_cons _ (by decide)),
      scan_sign (by decide) (hbracket _).1 rfl (.inl rfl),
      scan_variable hx (.inl rfl) (parted_cons _ (by decide)),
      scan_sign (by decide) (hbracket _).2 rfl (.inl rfl), ahead_ahead, ahead_ahead, ahead_ahead]
    rfl

end

lemma toList_program (c d : Command) (cs : List Command) :
    (program (c :: d :: cs)).toList = c.code.toList ++ '\n' :: (program (d :: cs)).toList := by
  simp [program, String.intercalate_cons_cons]

lemma scan_program {cs : List Command} (hne : cs ≠ []) (h : ∀ c ∈ cs, c.IsNamed) (line : Nat) :
    scan true line 0 [] [] (program cs).toList = .ok ⟨piecesFrom line cs, []⟩ := by
  induction cs generalizing line with
  | nil => exact absurd rfl hne
  | cons c cs ih =>
    have hc := h c (by simp)
    cases cs with
    | nil =>
      have hlist : (program [c]).toList = c.code.toList ++ [] := by simp [program]
      rw [hlist, scan_command hc parted_nil, scan_nil, ahead_ok]
      rfl
    | cons d cs =>
      rw [toList_program, scan_command hc (parted_cons _ (by decide)), scan_newline,
        ih (by simp) (fun e he => h e (List.mem_cons_of_mem c he)), ahead_ok, ahead_ok]
      rfl

/-! ### Lines -/

lemma Term.lexeme_ne_lineEnd {t : Term} {line blanks : Nat} :
    ∀ p ∈ t.pieces line blanks, p.lexeme ≠ .lineEnd := by
  intro p hp
  rcases t with x | ⟨_ | _, n⟩
  · obtain rfl : p = _ := by simpa [pieces] using hp
    simp
  · obtain rfl : p = _ := by simpa [pieces] using hp
    exact wholeLexeme_ne_lineEnd n
  · simp only [pieces, List.mem_cons, List.not_mem_nil, or_false] at hp
    rcases hp with rfl | rfl
    · simp
    · exact wholeLexeme_ne_lineEnd n

lemma Command.lexeme_ne_lineEnd {c : Command} {line : Nat} :
    ∀ p ∈ c.pieces line, p.lexeme ≠ .lineEnd := by
  intro p hp
  rcases c with ⟨x, a | ⟨op, a, b⟩⟩ | x
  · simp only [pieces, Formula.pieces, List.mem_cons] at hp
    rcases hp with rfl | rfl | hp
    · simp
    · simp
    · exact Term.lexeme_ne_lineEnd p hp
  · simp only [pieces, Formula.pieces, List.mem_cons, List.mem_append] at hp
    rcases hp with rfl | rfl | hp | rfl | hp
    · simp
    · simp
    · exact Term.lexeme_ne_lineEnd p hp
    · simp
    · exact Term.lexeme_ne_lineEnd p hp
  · simp only [pieces, List.mem_cons, List.not_mem_nil, or_false] at hp
    rcases hp with rfl | rfl | rfl | rfl <;> simp

def Command.line (number : Nat) (c : Command) : Line :=
  ⟨number, 0, c.pieces number ++ [endPiece number]⟩

def linesFrom (number : Nat) : List Command → List Line
  | [] => []
  | c :: cs => c.line number :: linesFrom (number + 1) cs

lemma group_piecesFrom (cs : List Command) (number : Nat) :
    Line.group [] (piecesFrom number cs) = linesFrom number cs := by
  induction cs generalizing number with
  | nil => rfl
  | cons c cs ih =>
    have hfirst : ∃ first tail, c.pieces number = first :: tail ∧ first.line = number ∧
        first.blanks = 0 := by
      cases c <;> exact ⟨_, _, rfl, rfl, rfl⟩
    obtain ⟨first, tail, hpieces, hnumber, hblanks⟩ := hfirst
    have hline : [].reverse ++ c.pieces number = first :: tail := by simpa using hpieces
    have hend : (endPiece number).lexeme = .lineEnd := rfl
    rw [piecesFrom, group_append Command.lexeme_ne_lineEnd hend hline, ih, linesFrom, Command.line,
      hpieces, hnumber, hblanks]

/-! ### Terms and formulas -/

/-- What a term is read as. A number with too many digits has no value. -/
def Term.read (line : Nat) : Term → Except ReadError Expr
  | name x => .ok (.name x)
  | whole negative n =>
    if (digits n).length ≤ digitLimit then
      .ok (if negative then .negate (.number (.whole n)) else .number (.whole n))
    else .error ⟨.literal (.longNumber (digits n).length), line⟩

lemma Operation.sign_ne (op : Operation) {t : String} (ht : t ∉ ["+", "-", "*"]) :
    Lexeme.sign op.sign ≠ .sign t := by
  intro h
  refine ht ?_
  cases op <;> simp_all [sign]

def Operation.arith : Operation → Arith
  | add => .add
  | sub => .sub
  | mul => .mul

def Formula.read (line : Nat) : Formula → Except ReadError Expr
  | term a => a.read line
  | operate op a b => do return .arith op.arith (← a.read line) (← b.read line)

variable {k line blanks : Nat} {q : Piece} {qs : List Piece}

lemma readAtom_whole (n : Nat) (p : Piece) (hp : p.lexeme = wholeLexeme n) :
    readAtom (p :: qs) = leaving ((Term.whole false n).read p.line) qs := by
  rw [wholeLexeme_eq] at hp
  simp only [Term.read]
  split at hp
  · next h => simp [readAtom, hp, h, leaving, Except.map]
  · next h => simp [readAtom, hp, h, leaving, Except.map]

lemma readUnary_term {t : Term} (ht : ∀ x ∈ t.names, IsVariable x) (hopen : q.lexeme ≠ .sign "(")
    (hpoint : q.lexeme ≠ .sign ".") :
    readUnary (k + 3) false (t.pieces line blanks ++ q :: qs) =
      leaving (t.read line) (q :: qs) := by
  cases t with
  | name x =>
    have hx := (ht x (by simp [Term.names])).unreserved
    exact readUnary_atom (by simp) (readAtom_name rfl hx _) hopen hpoint
  | whole negative n =>
    have hnumber : ∀ j blanks, readUnary (j + 2) false
        (⟨wholeLexeme n, line, blanks, 0⟩ :: q :: qs) =
          leaving ((Term.whole false n).read line) (q :: qs) := fun j blanks =>
      readUnary_atom (wholeLexeme_ne_sign n) (readAtom_whole n _ rfl)
        hopen hpoint
    cases negative with
    | false => exact hnumber (k + 1) blanks
    | true =>
      have hneg : (Term.whole true n).read line = ((Term.whole false n).read line).map .negate := by
        simp only [Term.read]
        split <;> rfl
      rw [hneg]
      exact readUnary_minus rfl (hnumber k 0)

/-- Up to the end of an expression, a formula is read as a sum. -/
lemma readSum_formula {f : Formula} (hf : ∀ t ∈ f.terms, ∀ x ∈ t.names, IsVariable x)
    (hq : Closes q) :
    readSum (k + 6) false (f.pieces line ++ q :: qs) = leaving (f.read line) (q :: qs) := by
  have hopen := hq.ne_sign (t := "(") (by decide)
  have hpoint := hq.ne_sign (t := ".") (by decide)
  cases f with
  | term a =>
    have ha := hf a (by simp [Formula.terms])
    exact readSum_of_product
      (readProduct_of_unary (readUnary_term ha hopen hpoint) hq.productSign?) hq.sumSign?
  | operate op a b =>
    have ha := hf a (by simp [Formula.terms])
    have hb := hf b (by simp [Formula.terms])
    have hleft : ∀ j, readUnary (j + 3) false
        (a.pieces line 1 ++ ⟨.sign op.sign, line, 1, 0⟩ :: (b.pieces line 1 ++ q :: qs)) =
          leaving (a.read line) (⟨.sign op.sign, line, 1, 0⟩ :: (b.pieces line 1 ++ q :: qs)) := by
      intro j
      exact readUnary_term ha (op.sign_ne (by decide)) (op.sign_ne (by decide))
    have hright : ∀ j, readUnary (j + 3) false (b.pieces line 1 ++ q :: qs) =
        leaving (b.read line) (q :: qs) := fun j => readUnary_term hb hopen hpoint
    rw [Formula.pieces, List.append_assoc, List.cons_append]
    -- a product is read one level below a sum and a difference
    cases op with
    | add =>
      exact readSum_operate (readProduct_of_unary (hleft _) rfl) rfl
        (readProduct_of_unary (hright k) hq.productSign?) hq.sumSign?
    | sub =>
      exact readSum_operate (readProduct_of_unary (hleft _) rfl) rfl
        (readProduct_of_unary (hright k) hq.productSign?) hq.sumSign?
    | mul =>
      exact readSum_of_product (readProduct_operate (hleft _) rfl (hright k) hq.productSign?)
        hq.sumSign?

/-! ### Statements -/

def Command.read (line : Nat) : Command → Except ReadError Stmt
  | assign x f => (f.read line).map (.assign line x)
  | print x => .ok (.expr (.call (.name "print") [.name x]))

lemma Term.first_ne_name (t : Term) (line blanks : Nat) (qs : List Piece) {word : String}
    (ht : ∀ x ∈ t.names, x ≠ word) : after? (.name word) (t.pieces line blanks ++ qs) = none := by
  rcases t with x | ⟨_ | _, n⟩
  · have := ht x (by simp [names])
    simp [pieces, after?, this]
  · have hne : wholeLexeme n ≠ .name word := by
      rw [wholeLexeme_eq]
      split <;> simp
    simp [pieces, after?, hne]
  · simp [pieces, after?]

lemma IsVariable.ne_reserved {x word : String} (hx : IsVariable x) (h : word ∈ reservedWords) :
    x ≠ word := by
  rintro rfl
  exact hx.unreserved h

lemma expression_formula {f : Formula} (hf : ∀ t ∈ f.terms, ∀ x ∈ t.names, IsVariable x)
    (hq : Closes q) :
    readExpr (k + 10) false (f.pieces line ++ q :: qs) = leaving (f.read line) (q :: qs) := by
  refine readExpr_of_sum (readSum_formula hf hq) ?_ hq
  have hnot : ∀ t ∈ f.terms, ∀ x ∈ t.names, x ≠ "not" :=
    fun t ht x hx => (hf t ht x hx).ne_reserved (by decide)
  cases f with
  | term a => exact a.first_ne_name line 1 _ (hnot a (by simp [Formula.terms]))
  | operate op a b =>
    rw [Formula.pieces, List.append_assoc]
    exact a.first_ne_name line 1 _ (hnot a (by simp [Formula.terms]))

lemma readExpr_name {x : String} (hx : x ∉ reservedWords) {depth : Nat} (hq : Closes q) :
    readExpr (k + 8) false (⟨.name x, line, blanks, depth⟩ :: q :: qs) =
      leaving (.ok (.name x)) (q :: qs) := by
  have hunary : readUnary (k + 2) false (⟨.name x, line, blanks, depth⟩ :: q :: qs) =
      leaving (.ok (.name x)) (q :: qs) :=
    readUnary_atom (by simp) (readAtom_name rfl hx _) (hq.ne_sign (by decide))
      (hq.ne_sign (by decide))
  refine readExpr_of_sum (readSum_of_product (readProduct_of_unary hunary hq.productSign?)
    hq.sumSign?) ?_ hq
  have hnot : x ≠ "not" := by
    rintro rfl
    exact hx (by decide)
  simp [after?, hnot]

/-- The pieces of a call with a variable as its only argument. -/
lemma readExpr_print {x : String} (hx : IsVariable x) (hq : Closes q) :
    readExpr (k + 20) false ((Command.print x).pieces line ++ q :: qs) =
      leaving (.ok (.call (.name "print") [.name x])) (q :: qs) := by
  have harg : readExpr (k + 11) false
      (⟨.name x, line, 0, 1⟩ :: ⟨.sign ")", line, 0, 0⟩ :: q :: qs) =
        .ok (.name x, ⟨.sign ")", line, 0, 0⟩ :: q :: qs) :=
    readExpr_name hx.unreserved (.inr rfl)
  have hargs : readArgs (k + 12) false
      (⟨.name x, line, 0, 1⟩ :: ⟨.sign ")", line, 0, 0⟩ :: q :: qs) =
        .ok ([.name x], q :: qs) := by
    rw [readArgs]
    simp [after?, harg, bind, Except.bind, pure, Except.pure]
  have hcalls : readCalls (k + 13) false (.name "print")
      (⟨.sign "(", line, 0, 1⟩ :: ⟨.name x, line, 0, 1⟩ :: ⟨.sign ")", line, 0, 0⟩ :: q :: qs) =
        .ok (.call (.name "print") [.name x], q :: qs) := by
    rw [readCalls]
    simp only [after?, if_true, hargs]
    exact readCalls_of_ne _ (hq.ne_sign (by decide)) (hq.ne_sign (by decide))
  have hunary : readUnary (k + 14) false ((Command.print x).pieces line ++ q :: qs) =
      leaving (.ok (.call (.name "print") [.name x])) (q :: qs) := by
    rw [readUnary]
    simp only [Command.pieces, List.cons_append, List.nil_append, after?, reduceCtorEq, if_false,
      readAtom_name (p := ⟨.name "print", line, 0, 0⟩) rfl (by decide)]
    exact hcalls
  exact readExpr_of_sum (readSum_of_product (readProduct_of_unary hunary hq.productSign?)
    hq.sumSign?) rfl hq

lemma readSimple_line {c : Command} (hc : c.IsNamed) (number : Nat) :
    readSimple false (c.line number) = c.read number := by
  have hend : Closes (endPiece number) := .inl rfl
  cases c with
  | assign x f =>
    have hx : IsVariable x := hc.target
    have hfirst : ∀ word ∈ reservedWords,
        ((Command.assign x f).line number).after? word = none := by
      intro word hword
      simp [Command.line, Command.pieces, Line.after?, after?, hx.ne_reserved hword]
    have hreserved : isReserved x = false := by simpa [isReserved] using hx.unreserved
    have hexpr : expression false (f.pieces number ++ [endPiece number]) =
        leaving (f.read number) [endPiece number] := by
      exact expression_formula (fun t ht => hc.term ht) hend
    rw [readSimple, hfirst "pass" (by decide), hfirst "break" (by decide),
      hfirst "continue" (by decide), hfirst "return" (by decide)]
    simp only [Command.line, Command.pieces, List.cons_append, hreserved, Bool.false_eq_true,
      if_false, hexpr, Command.read]
    cases f.read number <;> rfl
  | print x =>
    have hx : IsVariable x := hc x (by simp [Command.names, Command.terms, Term.names])
    have hexpr : expression false ((Command.print x).pieces number ++ [endPiece number]) =
        leaving (.ok (.call (.name "print") [.name x])) [endPiece number] := by
      exact readExpr_print hx hend
    have hfirst : ∀ word, word ≠ "print" → ((Command.print x).line number).after? word = none := by
      intro word hword
      simp [Command.line, Command.pieces, Line.after?, after?, hword.symm]
    rw [readSimple, hfirst "pass" (by decide), hfirst "break" (by decide),
      hfirst "continue" (by decide), hfirst "return" (by decide)]
    change (expression false ((Command.print x).pieces number ++ [endPiece number]) >>=
      fun r => atEnd (Stmt.expr r.1) r.2) = _
    rw [hexpr]
    rfl

lemma Term.flaw_of_read {t : Term} {line : Nat} {e : ReadError} (h : t.read line = .error e) :
    ∃ digits, e.flaw = .literal (.longNumber digits) := by
  cases t with
  | name x => cases h
  | whole negative n =>
    simp only [read] at h
    split at h
    · cases h
    · obtain rfl := Except.error.inj h
      exact ⟨_, rfl⟩

lemma Formula.flaw_of_read {f : Formula} {line : Nat} {e : ReadError}
    (h : f.read line = .error e) : ∃ digits, e.flaw = .literal (.longNumber digits) := by
  cases f with
  | term a => exact Term.flaw_of_read h
  | operate op a b =>
    simp only [read, bind_eq_error_iff] at h
    rcases h with ha | ⟨_, -, hb | ⟨_, -, hpure⟩⟩
    · exact Term.flaw_of_read ha
    · exact Term.flaw_of_read hb
    · cases hpure

lemma Command.flaw_of_read {c : Command} {line : Nat} {e : ReadError}
    (h : c.read line = .error e) : ∃ digits, e.flaw = .literal (.longNumber digits) := by
  cases c with
  | assign x f =>
    rcases hf : f.read line with e' | value
    · rw [read, hf] at h
      obtain rfl := Except.error.inj h
      exact Formula.flaw_of_read hf
    · rw [read, hf] at h
      cases h
  | print x => cases h

lemma readStmt_line {c : Command} (hc : c.IsNamed) (number : Nat) (ls : List Line) :
    readStmt (k + 1) (c.line number) ls = (c.read number).map fun s => (s, ls) := by
  have hfirst : ∀ word ∈ reservedWords, (c.line number).after? word = none := by
    intro word hword
    cases c with
    | assign x f =>
      have hx : IsVariable x := hc.target
      simp [Command.line, Command.pieces, Line.after?, after?, hx.ne_reserved hword]
    | print x =>
      have hne : "print" ≠ word := by
        rintro rfl
        exact absurd hword (by decide)
      simp [Command.line, Command.pieces, Line.after?, after?, hne]
  have hsettled : settled (readSimple · (c.line number)) = c.read number := by
    rw [settled, readSimple_line hc]
    cases h : c.read number with
    | ok s => rfl
    | error e =>
      -- a number that is too long is told at once, without a search for the reason
      obtain ⟨digits, hflaw⟩ := Command.flaw_of_read h
      simp [hflaw]
  rw [readStmt, hfirst "if" (by decide), hfirst "while" (by decide), hfirst "for" (by decide),
    hfirst "try" (by decide), hfirst "def" (by decide)]
  simp only [hsettled]
  cases c.read number <;> rfl

/-! ### Programs -/

def readFrom (number : Nat) : List Command → Except ReadError (List Stmt)
  | [] => .ok []
  | c :: cs => do return (← c.read number) :: (← readFrom (number + 1) cs)

lemma readBlock_linesFrom {cs : List Command} (h : ∀ c ∈ cs, c.IsNamed) (number : Nat) :
    readBlock (k + 1 + cs.length) 0 (linesFrom number cs) =
      (readFrom number cs).map fun ss => (ss, []) := by
  induction cs generalizing number with
  | nil => rfl
  | cons c cs ih =>
    have hrest := ih (fun d hd => h d (List.mem_cons_of_mem c hd)) (number + 1)
    have hstmt := readStmt_line (k := k + cs.length) (h c (by simp)) number
      (linesFrom (number + 1) cs)
    have hfuel : k + cs.length + 1 = k + 1 + cs.length := by omega
    rw [hfuel] at hstmt
    have hhalt : (c.line number).halt? = none := by cases c <;> rfl
    have hcolumn : (c.line number).column = 0 := rfl
    rw [List.length_cons, ← Nat.add_assoc, linesFrom, readBlock]
    simp only [hhalt, hcolumn, Nat.lt_irrefl, if_false]
    rw [hstmt, readFrom]
    cases c.read number with
    | error e => rfl
    | ok s =>
      simp only [Except.map, bind, Except.bind, hrest]
      cases readFrom (number + 1) cs <;> rfl

lemma readLines_linesFrom {cs : List Command} (h : ∀ c ∈ cs, c.IsNamed) (number : Nat) :
    Script.readLines (linesFrom number cs) = readFrom number cs := by
  have hlen : (linesFrom number cs).length = cs.length := by
    induction cs generalizing number with
    | nil => rfl
    | cons c cs ih => simp [linesFrom, ih fun d hd => h d (List.mem_cons_of_mem c hd)]
  have hfuel : 3 * cs.length + 3 = 2 * cs.length + 2 + 1 + cs.length := by omega
  rw [Script.readLines, hlen, hfuel, readBlock_linesFrom h]
  cases readFrom number cs <;> rfl

lemma Term.zero_notMem_text {t : Term} (ht : ∀ x ∈ t.names, IsVariable x) :
    '\x00' ∉ t.text.toList := by
  intro hm
  exact absurd (Term.isTermChar ht hm) (by decide)

lemma Command.zero_notMem_code {c : Command} (hc : c.IsNamed) : '\x00' ∉ c.code.toList := by
  rcases c with ⟨x, a | ⟨op, a, b⟩⟩ | x
  · have hx := Term.zero_notMem_text hc.target.term
    have ha := Term.zero_notMem_text (hc.term (t := a) (by simp [terms, Formula.terms]))
    simp only [Term.text] at hx
    simp [code, Formula.code, hx, ha]
  · have hx := Term.zero_notMem_text hc.target.term
    have ha := Term.zero_notMem_text (hc.term (t := a) (by simp [terms, Formula.terms]))
    have hb := Term.zero_notMem_text (hc.term (t := b) (by simp [terms, Formula.terms]))
    simp only [Term.text] at hx
    cases op <;> simp [code, Formula.code, Operation.sign, hx, ha, hb]
  · have hx := Term.zero_notMem_text (hc.term (t := .name x) (by simp [terms]))
    simp only [Term.text] at hx
    simp [code, hx]

lemma zero_notMem_program {cs : List Command} (h : ∀ c ∈ cs, c.IsNamed) :
    '\x00' ∉ (program cs).toList := by
  induction cs with
  | nil => simp [program]
  | cons c cs ih =>
    have hc := Command.zero_notMem_code (h c (by simp))
    cases cs with
    | nil => simpa [program] using hc
    | cons d cs =>
      have hrest := ih fun e he => h e (List.mem_cons_of_mem c he)
      simp [toList_program, hc, hrest]

theorem readProgram_program {cs : List Command} (h : ∀ c ∈ cs, c.IsNamed) :
    readProgram (program cs) = readFrom 1 cs >>= checkPlaces := by
  have hzero : (program cs).toList.contains '\x00' = false := by
    simpa using zero_notMem_program h
  have hscan : ∃ ps, scan true 1 0 [] [] (program cs).toList = .ok ⟨ps, []⟩ ∧
      Line.group [] ps = linesFrom 1 cs := by
    by_cases hne : cs = []
    · subst hne
      exact ⟨[endPiece 1], scan_nil, rfl⟩
    · exact ⟨piecesFrom 1 cs, scan_program hne h 1, group_piecesFrom cs 1⟩
  obtain ⟨ps, hps, hgroup⟩ := hscan
  rw [readProgram, hzero, hps]
  simp only [Bool.false_eq_true, if_false, Pieces.read, hgroup, readLines_linesFrom h]
  cases readFrom 1 cs <;> rfl

end Flowline.Straight
