import Flowline.Proofs.Agreement
import Flowline.Proofs.Nested

/-!
When the editor complains of blocks.

The editor counts openers and block ends. It takes every clause of a chain for an opener of its own
and a named block for none, so a program whose blocks are all closed, each chain and each named
block once, leaves a surplus for every later clause and a lack for every named block. The editor
keeps silent if the two cancel and no lack comes first; with one of them alone, it never does.
-/

namespace Flowline

open Editor (statementOf opensBlockAt blockStep blockReports unclosedReport PlacedToken)

/-! ### Openers and block ends -/

namespace Token

def closes (t : Token) : Bool := isBlockEnd t.action

def opens (t : Token) : Bool :=
  match statementOf t with
  | .ok s => opensBlockAt t s
  | .error _ => false

end Token

def openers (ts : List Token) : Nat := ts.countP Token.opens

def enders (ts : List Token) : Nat := ts.countP Token.closes

/-- With `n` open blocks before them, no beginning of the tokens has a block end too many. -/
def Covers (n : Nat) (ts : List Token) : Prop :=
  ∀ pre, pre <+: ts → enders pre ≤ n + openers pre

section

variable {n m : Nat} {t : Token} {ts us : List Token}

lemma openers_append (ts us : List Token) : openers (ts ++ us) = openers ts + openers us :=
  List.countP_append

lemma enders_append (ts us : List Token) : enders (ts ++ us) = enders ts + enders us :=
  List.countP_append

lemma openers_cons (t : Token) (ts : List Token) :
    openers (t :: ts) = openers ts + if t.opens then 1 else 0 := List.countP_cons

lemma enders_cons (t : Token) (ts : List Token) :
    enders (t :: ts) = enders ts + if t.closes then 1 else 0 := List.countP_cons

lemma covers_nil (n : Nat) : Covers n [] := by
  intro pre hpre
  rw [List.prefix_nil.mp hpre]
  exact Nat.zero_le _

lemma Covers.append (h : Covers n ts) (hm : n + openers ts = m + enders ts) (h' : Covers m us) :
    Covers n (ts ++ us) := by
  intro pre hpre
  rcases List.prefix_or_prefix_of_prefix hpre (List.prefix_append ts us) with hle | ⟨post, rfl⟩
  · exact h pre hle
  · have hpost := h' post (by simpa using hpre)
    rw [enders_append, openers_append]
    omega

lemma covers_cons_iff :
    Covers n (t :: ts) ↔
      (t.closes = true → 0 < n + if t.opens then 1 else 0) ∧
        Covers (n + (if t.opens then 1 else 0) - if t.closes then 1 else 0) ts := by
  constructor
  · intro h
    have hfirst := h [t] (by simp)
    rw [enders_cons, openers_cons] at hfirst
    refine ⟨fun hc => ?_, fun pre hpre => ?_⟩
    · simp only [hc, if_true, openers, enders, List.countP_nil] at hfirst
      omega
    · have := h (t :: pre) (by simpa using hpre)
      rw [enders_cons, openers_cons] at this
      omega
  · rintro ⟨hfirst, hrest⟩ pre hpre
    rcases List.prefix_cons_iff.mp hpre with rfl | ⟨post, rfl, hpost⟩
    · exact Nat.zero_le _
    · have := hrest post hpost
      rw [enders_cons, openers_cons]
      cases hc : t.closes with
      | true =>
        have := hfirst hc
        simp only [hc, if_true] at *
        omega
      | false =>
        simp only [hc, Bool.false_eq_true, if_false] at *
        omega

end

/-! ### The reports -/

namespace Editor

/-- A report of a block end too many, or of one that is missing. -/
def Diagnostic.IsBlockReport (e : Diagnostic) : Prop :=
  (∃ word, e.message = unexpectedEnd word) ∨ ∃ n, e.message = unclosedBlocks n

/-- The editor has nothing to say about the blocks of a source. -/
def Quiet (source : String) : Prop :=
  ∀ e ∈ (analyze source.toList).diagnostics, ¬ e.IsBlockReport

/-- The beginning of a message, by which its kind is known. -/
def opening (message : String) : List Char := message.toList.take 15

lemma opening_append {a : String} (h : 15 ≤ a.toList.length) (b : String) :
    opening (a ++ b) = opening a := by
  rw [opening, String.toList_append, List.take_append_of_le_length h, opening]

lemma opening_unexpectedEnd (word : String) :
    opening (unexpectedEnd word) = "Unexpected bloc".toList := by
  have hmessage : unexpectedEnd word =
      "Unexpected block end '" ++ (word ++ "' without matching block opener") := by
    rw [← String.append_assoc]
    rfl
  rw [hmessage, opening_append (by decide)]
  decide

lemma opening_unclosedBlocks (n : Nat) :
    opening (unclosedBlocks n) = "Unclosed block(".toList := by
  have hmessage : unclosedBlocks n =
      "Unclosed block(s): expected " ++ (toString n ++ " more '终/end' statement(s)") := by
    rw [← String.append_assoc]
    rfl
  rw [hmessage, opening_append (by decide)]
  decide

lemma opening_inlineCommentWarning (n : Nat) :
    opening (inlineCommentWarning n) = "Inline comments".toList := by
  have hmessage : inlineCommentWarning n =
      "Inline comments are not supported in Catapillar v0.1 (ignored) [line " ++
        (toString n ++ "]") := by
    rw [← String.append_assoc]
    rfl
  rw [hmessage, opening_append (by decide)]
  decide

lemma opening_refusalText (e : ParseError) :
    opening (refusalText e) ∈
      ["Invalid line st".toList, "Arrow missing t".toList, "Unknown action:".toList] := by
  cases e with
  | badState state =>
    have hmessage : refusalText (.badState state) = "Invalid line state: " ++ state := rfl
    rw [hmessage, opening_append (by decide)]
    decide
  | danglingArrow =>
    have hmessage : refusalText .danglingArrow = "Arrow missing target" := rfl
    rw [hmessage]
    decide
  | unknownAction word =>
    have hmessage : refusalText (.unknownAction word) = "Unknown action: " ++ word := rfl
    rw [hmessage, opening_append (by decide)]
    decide

lemma Diagnostic.IsBlockReport.opening {e : Diagnostic} (h : e.IsBlockReport) :
    opening e.message ∈ ["Unexpected bloc".toList, "Unclosed block(".toList] := by
  rcases h with ⟨word, h⟩ | ⟨n, h⟩
  · simp [h, opening_unexpectedEnd]
  · simp [h, opening_unclosedBlocks]

lemma not_isBlockReport_warning {source : List Char} {w : Warning} (h : w ∈ warnings source) :
    ¬ (Diagnostic.ofWarning w).IsBlockReport := by
  intro hreport
  have hopening := hreport.opening
  unfold warnings at h
  rcases List.mem_append.mp h with hinline | hunclosed
  · obtain ⟨n, -, rfl⟩ := List.mem_map.mp hinline
    simp [Diagnostic.ofWarning, opening_inlineCommentWarning] at hopening
  · split_ifs at hunclosed
    · obtain rfl := List.mem_singleton.mp hunclosed
      have : opening unclosedCommentWarning ∉
          ["Unexpected bloc".toList, "Unclosed block(".toList] := by decide
      exact this hopening
    · simp at hunclosed

lemma not_isBlockReport_errorAt (t : PlacedToken) (e : ParseError) :
    ¬ (errorAt t e).IsBlockReport := by
  intro hreport
  have hopening := hreport.opening
  have herror := opening_refusalText e
  simp only [errorAt, List.mem_cons, List.not_mem_nil, or_false] at hopening herror
  rcases herror with h | h | h <;> simp [h] at hopening

end Editor

open Editor in
/-- What one token does to the number of open blocks, and when it is reported. -/
lemma blockStep_spec (n : Nat) (t : PlacedToken) :
    (blockStep n t).1 =
        n + (if t.token.opens then 1 else 0) - (if t.token.closes then 1 else 0) ∧
      ((∀ e ∈ (blockStep n t).2, ¬ e.IsBlockReport) ↔
        (t.token.closes = true → 0 < n + if t.token.opens then 1 else 0)) := by
  have hstatement := statementOf_eq t.token
  unfold blockStep Token.opens Token.closes
  by_cases hend : isBlockEnd t.token.action = true
  · have hok : statementOf t.token = .ok (.blockEnd t.token.state) := by
      rw [hstatement, Token.statement, if_pos hend]
      rfl
    rw [hok]
    simp only [hend, if_true, opensBlockAt, Bool.false_eq_true, if_false, Nat.add_zero]
    by_cases hn : n = 0
    · have hreport : (⟨unexpectedEnd t.token.action, t.line, .warning, none⟩ :
          Diagnostic).IsBlockReport := .inl ⟨_, rfl⟩
      simp [hn, hreport]
    · have hpos : 0 < n := by omega
      simp [hn, hpos]
  · simp only [hend, false_implies, iff_true, Nat.sub_zero, if_false, Bool.false_eq_true]
    rcases hs : statementOf t.token with e | s
    · simpa using not_isBlockReport_errorAt t e
    · cases s with
      | blockEnd state =>
        -- only a block end word is a block end
        rw [hstatement] at hs
        rcases hw : t.token.statement with e | s
        · rw [hw] at hs
          cases hs
        · rw [hw] at hs
          rcases Token.writes_of_ok hw with h | _ | _ | _ | _ | _
          · exact absurd ((isBlockEnd_iff _).mpr h) hend
          all_goals cases hs
      | line action args state =>
        simp only [List.not_mem_nil, false_implies, implies_true, and_true]
        split_ifs <;> rfl
      | block name state => simp [opensBlockAt]
      | arrow source target direction state => simp [opensBlockAt]

open Editor in
/-- Reading on and on, no block end is reported if each finds a block open. -/
lemma quiet_blockReports_iff (n : Nat) (ts : List PlacedToken) :
    (∀ e ∈ blockReports n ts, ¬ e.IsBlockReport) ↔ Covers n (ts.map (·.token)) := by
  induction ts generalizing n with
  | nil => simp [blockReports, covers_nil]
  | cons t ts ih =>
    obtain ⟨hdepth, hreport⟩ := blockStep_spec n t
    rw [blockReports, List.forall_mem_append, hreport, ih, hdepth, List.map_cons, covers_cons_iff]

open Editor in
lemma foldl_blockStep {n : Nat} {ts : List PlacedToken} (h : Covers n (ts.map (·.token))) :
    ts.foldl (fun d t => (blockStep d t).1) n + enders (ts.map (·.token)) =
      n + openers (ts.map (·.token)) := by
  induction ts generalizing n with
  | nil => rfl
  | cons t ts ih =>
    obtain ⟨hfirst, hrest⟩ := covers_cons_iff.mp h
    rw [List.foldl_cons, (blockStep_spec n t).1, List.map_cons, enders_cons, openers_cons]
    have := ih hrest
    cases hc : t.token.closes with
    | true =>
      have := hfirst hc
      simp only [hc, if_true] at *
      omega
    | false =>
      simp only [hc, Bool.false_eq_true, if_false] at *
      omega

open Editor in
/-- The editor says nothing about the blocks of a source exactly if openers and block ends match. -/
theorem quiet_iff_matched (source : String) :
    Quiet source ↔
      Covers 0 ((tokens source.toList).map (·.token)) ∧
        openers ((tokens source.toList).map (·.token)) =
          enders ((tokens source.toList).map (·.token)) := by
  unfold Quiet analyze
  simp only [List.forall_mem_append, quiet_blockReports_iff]
  have hwarnings : ∀ e ∈ (warnings source.toList).map Diagnostic.ofWarning, ¬ e.IsBlockReport := by
    intro e he
    obtain ⟨w, hw, rfl⟩ := List.mem_map.mp he
    exact not_isBlockReport_warning hw
  rw [and_assoc, and_iff_right hwarnings]
  refine and_congr_right fun hcovers => ?_
  -- with no end too many, what is open in the end was opened and not closed
  have hopen : openBlocks (tokens source.toList) + enders _ = 0 + openers _ :=
    foldl_blockStep hcovers
  unfold unclosedReport
  split_ifs with hzero
  · simp only [List.not_mem_nil, false_implies, implies_true, true_iff]
    omega
  · simp only [List.mem_singleton, forall_eq, Diagnostic.IsBlockReport]
    constructor
    · intro h
      exact absurd (.inr ⟨_, rfl⟩) h
    · intro h
      omega

/-! ### Programs whose blocks are all closed -/

namespace Token

def WritesLine (t : Token) (kind : Action → Prop) : Prop :=
  ∃ a args state, t.Writes (.line a args state) ∧ kind a

def IsPlain (t : Token) : Prop :=
  t.WritesLine (· ∈ simpleActions) ∨
    ∃ source target direction state, t.Writes (.arrow source target direction state)

def Names (t : Token) : Prop := ∃ name state, t.Writes (.block name state)

end Token

mutual

/-- Lines, named blocks and compound statements, written in tokens. Each named block and each
compound statement is closed once, after its last clause. -/
inductive Outline : Type
  | nil
  | plain (t : Token) (isPlain : t.IsPlain) (next : Outline)
  | named (head : Token) (names : head.Names) (body : Outline) (close : Token)
      (ends : close.action ∈ blockEndWords) (next : Outline)
  | compound (shape : Shape) (head : Token)
      (begins : head.WritesLine (Shape.opening · = some shape)) (body : Outline)
      (rest : Branches shape) (next : Outline)

/-- The rest of a compound statement after the body of a clause. -/
inductive Branches : Shape → Type
  | done {shape : Shape} (close : Token) (ends : close.action ∈ blockEndWords) : Branches shape
  | clause {shape rest : Shape} (head : Token)
      (adds : head.WritesLine (shape.adding · = some rest)) (body : Outline)
      (more : Branches rest) : Branches shape

end

mutual

def Outline.tokens : Outline → List Token
  | .nil => []
  | .plain t _ next => t :: next.tokens
  | .named head _ body close _ next => head :: (body.tokens ++ close :: next.tokens)
  | .compound _ head _ body rest next => head :: (body.tokens ++ (rest.tokens ++ next.tokens))

def Branches.tokens {s : Shape} : Branches s → List Token
  | .done close _ => [close]
  | .clause head _ body more => head :: (body.tokens ++ more.tokens)

end

mutual

def Outline.late : Outline → Nat
  | .nil => 0
  | .plain _ _ next => next.late
  | .named _ _ body _ _ next => body.late + next.late
  | .compound _ _ _ body rest next => body.late + rest.late + next.late

def Branches.late {s : Shape} : Branches s → Nat
  | .done _ _ => 0
  | .clause head _ body more => (if head.opens then 1 else 0) + body.late + more.late

end

mutual

def Outline.namedBlocks : Outline → Nat
  | .nil => 0
  | .plain _ _ next => next.namedBlocks
  | .named _ _ body _ _ next => body.namedBlocks + next.namedBlocks + 1
  | .compound _ _ _ body rest next => body.namedBlocks + rest.namedBlocks + next.namedBlocks

def Branches.namedBlocks {s : Shape} : Branches s → Nat
  | .done _ _ => 0
  | .clause _ _ body more => body.namedBlocks + more.namedBlocks

end

namespace Token

variable {t : Token}

lemma closes_of_ends (h : t.action ∈ blockEndWords) : t.closes = true ∧ t.opens = false := by
  have hend : isBlockEnd t.action = true := (isBlockEnd_iff _).mpr h
  refine ⟨hend, ?_⟩
  rw [opens, statementOf_eq, Token.statement, if_pos hend]
  rfl

lemma closes_of_writes {s : Statement} (h : t.Writes s) (hs : ∀ state, s ≠ .blockEnd state) :
    t.closes = false := by
  have hnot : t.action ∉ blockEndWords := by
    cases h with
    | blockEnd h => exact absurd rfl (hs _)
    | clause h _ _ => exact h.1
    | block h _ _ => exact h.1
    | rightArrow h _ _ => exact h.1
    | leftArrow h _ _ _ => exact h.1
    | line h _ _ _ _ => exact h.1
  rw [closes, Bool.eq_false_iff]
  exact fun hend => hnot ((isBlockEnd_iff _).mp hend)

/-- The words `else` and `finally` open nothing for the editor unless they carry the colon. -/
lemma opens_line {a : Action} {args : List String} {state : String}
    (h : t.Writes (.line a args state)) :
    t.opens =
      (a.opensBlock && ((colonName? t.action).isSome || (a != .else_ && a != .finally_))) := by
  rw [opens, statementOf_eq, statement_of_writes h]
  rfl

lemma IsPlain.silent (h : t.IsPlain) : t.closes = false ∧ t.opens = false := by
  rcases h with ⟨a, args, state, hw, ha⟩ | ⟨source, target, direction, state, hw⟩
  · refine ⟨closes_of_writes hw (by simp), ?_⟩
    rw [opens_line hw, (simple_opens ha).1, Bool.false_and]
  · refine ⟨closes_of_writes hw (by simp), ?_⟩
    rw [opens, statementOf_eq, statement_of_writes hw]
    rfl

lemma Names.silent (h : t.Names) : t.closes = false ∧ t.opens = false := by
  obtain ⟨name, state, hw⟩ := h
  refine ⟨closes_of_writes hw (by simp), ?_⟩
  rw [opens, statementOf_eq, statement_of_writes hw]
  rfl

lemma opens_of_begins {shape : Shape} (h : t.WritesLine (Shape.opening · = some shape)) :
    t.closes = false ∧ t.opens = true := by
  obtain ⟨a, args, state, hw, ha⟩ := h
  refine ⟨closes_of_writes hw (by simp), ?_⟩
  rw [opens_line hw, (Shape.opening_opens ha).1, Bool.true_and]
  cases a <;> simp_all [Shape.opening]

lemma WritesLine.closes {kind : Action → Prop} (h : t.WritesLine kind) : t.closes = false := by
  obtain ⟨a, args, state, hw, -⟩ := h
  exact closes_of_writes hw (by simp)

end Token

lemma counts_cons {t : Token} {closes opens : Bool} (h : t.closes = closes ∧ t.opens = opens)
    (ts : List Token) :
    enders (t :: ts) = enders ts + closes.toNat ∧ openers (t :: ts) = openers ts + opens.toNat := by
  obtain ⟨rfl, rfl⟩ := h
  rw [enders_cons, openers_cons]
  cases t.closes <;> cases t.opens <;> simp

mutual

/-- Every later clause is an opener too many and every named block a block end too many. -/
lemma Outline.balance (o : Outline) :
    openers o.tokens + o.namedBlocks = enders o.tokens + o.late := by
  cases o with
  | nil => rfl
  | plain t isPlain next =>
    have hnext := next.balance
    obtain ⟨he, ho⟩ := counts_cons isPlain.silent next.tokens
    simp only [Outline.tokens, Outline.namedBlocks, Outline.late, he, ho, Bool.toNat_false]
    omega
  | named head names body close ends next =>
    have hbody := body.balance
    have hnext := next.balance
    -- the editor sees the end of a named block, but not its beginning
    obtain ⟨he, ho⟩ := counts_cons names.silent (body.tokens ++ close :: next.tokens)
    obtain ⟨he', ho'⟩ := counts_cons (Token.closes_of_ends ends) next.tokens
    simp only [Outline.tokens, Outline.namedBlocks, Outline.late, he, ho, enders_append,
      openers_append, he', ho', Bool.toNat_false, Bool.toNat_true]
    omega
  | compound shape head begins body rest next =>
    have hbody := body.balance
    have hrest := rest.balance
    have hnext := next.balance
    obtain ⟨he, ho⟩ := counts_cons (Token.opens_of_begins begins)
      (body.tokens ++ (rest.tokens ++ next.tokens))
    simp only [Outline.tokens, Outline.namedBlocks, Outline.late, he, ho, enders_append,
      openers_append, Bool.toNat_false, Bool.toNat_true]
    omega

/-- The rest of a compound statement closes the block that its head has opened. -/
lemma Branches.balance {s : Shape} (c : Branches s) :
    openers c.tokens + c.namedBlocks + 1 = enders c.tokens + c.late := by
  cases c with
  | done close ends =>
    obtain ⟨he, ho⟩ := counts_cons (Token.closes_of_ends ends) []
    simp only [Branches.tokens, Branches.namedBlocks, Branches.late, he, ho, Bool.toNat_false,
      Bool.toNat_true]
    rfl
  | clause head adds body more =>
    have hbody := body.balance
    have hmore := more.balance
    obtain ⟨he, -⟩ := counts_cons ⟨adds.closes, rfl⟩ (body.tokens ++ more.tokens)
    simp only [Branches.tokens, Branches.namedBlocks, Branches.late, he, openers_cons,
      enders_append, openers_append, Bool.toNat_false]
    omega

end

mutual

lemma Outline.covers (o : Outline) (h : o.namedBlocks = 0) (n : Nat) : Covers n o.tokens := by
  cases o with
  | nil => exact covers_nil n
  | plain t isPlain next =>
    obtain ⟨hc, ho⟩ := isPlain.silent
    refine covers_cons_iff.mpr ⟨fun hcloses => by simp [hc] at hcloses, ?_⟩
    exact next.covers h _
  | named head names body close ends next => simp [Outline.namedBlocks] at h
  | compound shape head begins body rest next =>
    simp only [Outline.namedBlocks, Nat.add_eq_zero_iff] at h
    obtain ⟨⟨hb, hr⟩, hn⟩ := h
    obtain ⟨hc, ho⟩ := Token.opens_of_begins begins
    have hbody := body.balance
    have hrest := rest.balance
    refine covers_cons_iff.mpr ⟨fun hcloses => by simp [hc] at hcloses, ?_⟩
    -- from inside the head: the body, then the rest of the chain, then what follows
    simp only [hc, ho, Bool.false_eq_true, if_true, if_false, Nat.sub_zero]
    refine (body.covers hb _).append (m := n + body.late + 1) (by omega) ?_
    exact (rest.covers hr _).append (m := n + body.late + rest.late) (by omega) (next.covers hn _)

lemma Branches.covers {s : Shape} (c : Branches s) (h : c.namedBlocks = 0) (n : Nat) :
    Covers (n + 1) c.tokens := by
  cases c with
  | done close ends =>
    obtain ⟨hc, ho⟩ := Token.closes_of_ends ends
    exact covers_cons_iff.mpr ⟨fun _ => by omega, covers_nil _⟩
  | clause head adds body more =>
    simp only [Branches.namedBlocks, Nat.add_eq_zero_iff] at h
    have hbody := body.balance
    refine covers_cons_iff.mpr ⟨fun hcloses => by simp [adds.closes] at hcloses, ?_⟩
    simp only [adds.closes, Bool.false_eq_true, if_false, Nat.sub_zero]
    refine (body.covers h.1 _).append (m := n + (if head.opens then 1 else 0) + body.late + 1)
      (by omega) ?_
    exact more.covers h.2 _

end

/-- **Blocks that are closed once**: on a source that writes such a program, the editor complains of
nothing exactly if there are as many later clauses that it takes for openers as there are named
blocks and no beginning of the source has a block end too many. If there are no later clauses of
that kind, or no named blocks, then it complains of nothing exactly if there are none of either. -/
theorem quiet_iff_of_outline (source : String) (o : Outline)
    (h : (Editor.tokens source.toList).map (·.token) = o.tokens) :
    (Editor.Quiet source ↔
        o.late = o.namedBlocks ∧ ∀ pre, pre <+: o.tokens → enders pre ≤ openers pre) ∧
      (o.late = 0 ∨ o.namedBlocks = 0 →
        (Editor.Quiet source ↔ o.late = 0 ∧ o.namedBlocks = 0)) := by
  have hbalance := o.balance
  have hquiet : Editor.Quiet source ↔ o.late = o.namedBlocks ∧ Covers 0 o.tokens := by
    rw [quiet_iff_matched, h, and_comm]
    refine and_congr_left fun _ => ?_
    omega
  have hcovers : Covers 0 o.tokens ↔ ∀ pre, pre <+: o.tokens → enders pre ≤ openers pre := by
    unfold Covers
    simp only [Nat.zero_add]
  refine ⟨hquiet.trans (and_congr_right fun _ => hcovers), fun hone => ?_⟩
  rw [hquiet]
  constructor
  · rintro ⟨heq, -⟩
    omega
  · rintro ⟨hlate, hnamed⟩
    exact ⟨by omega, o.covers hnamed 0⟩

lemma Token.WritesLine.of_statement {t : Token} {kind : Action → Prop} {a : Action}
    {args : List String} {state : String} (h : t.statement = .ok (.line a args state))
    (ha : kind a) : t.WritesLine kind :=
  ⟨a, args, state, Token.writes_of_ok h, ha⟩

def endToken : Token := ⟨"终", [], "~"⟩

lemma endToken_ends : endToken.action ∈ blockEndWords := by decide

def passToken : Token := ⟨"空", [], "~"⟩

lemma passToken_plain : passToken.IsPlain := .inl (.of_statement rfl (by decide))

/-- A choice inside a loop inside a function, and an arrow. -/
def countdown : Outline :=
  .compound .alone ⟨"定", ["f", "x:"], "~"⟩ (.of_statement rfl rfl)
    (.compound .alone ⟨"当", ["x", ">", "0:"], "!"⟩ (.of_statement rfl rfl)
      (.compound .branches ⟨"若", ["x", "是", "1:"], "~"⟩ (.of_statement rfl rfl)
        (.plain passToken passToken_plain .nil) (.done endToken endToken_ends)
        (.plain ⟨"sub", ["x", "x", "1"], "~"⟩ (.inl (.of_statement rfl (by decide))) .nil))
      (.done endToken endToken_ends) .nil)
    (.done ⟨"end", [], ">"⟩ (by decide))
    (.plain ⟨"甲", ["->", "乙"], "~"⟩ (.inr ⟨_, _, _, _, Token.writes_of_ok rfl⟩) .nil)

def countdownSource : String :=
  "定 f x:\n! 当 x > 0:\n若 x 是 1:\n空 # 一\n终\nsub x x 1\n终\n> end\n\n甲 -> 乙\n"

/-- Without later clauses and named blocks, there is nothing to report. -/
theorem countdown_quiet :
    (Editor.tokens countdownSource.toList).map (·.token) = countdown.tokens ∧
      countdown.late = 0 ∧ countdown.namedBlocks = 0 ∧ Editor.Quiet countdownSource := by
  have htokens : (Editor.tokens countdownSource.toList).map (·.token) = countdown.tokens := by
    decide +kernel
  exact ⟨htokens, rfl, rfl,
    ((quiet_iff_of_outline countdownSource countdown htokens).2 (.inl rfl)).mpr ⟨rfl, rfl⟩⟩

def choice : Outline :=
  .compound .branches ⟨"若", ["x:"], "~"⟩ (.of_statement rfl rfl)
    (.plain passToken passToken_plain .nil)
    (.clause ⟨"否则:", [], "~"⟩ (.of_statement rfl rfl) (.plain passToken passToken_plain .nil)
      (.done endToken endToken_ends)) .nil

def choiceSource : String := "若 x:\n空\n否则:\n空\n终\n"

def procedure : Outline :=
  .named ⟨"流程:", [], "~"⟩ ⟨_, _, Token.writes_of_ok rfl⟩
    (.plain ⟨"甲", ["->", "乙"], "~"⟩ (.inr ⟨_, _, _, _, Token.writes_of_ok rfl⟩) .nil)
    ⟨"end", [], "~"⟩ (by decide) .nil

def procedureSource : String := "流程:\n    甲 -> 乙\nend\n"

/-- A second branch counts as a block that is never closed, the end of a named block as one too
many. -/
theorem closedBlocks_reported :
    ((Editor.tokens choiceSource.toList).map (·.token) = choice.tokens ∧
        (Editor.analyze choiceSource.toList).diagnostics =
          [⟨Editor.unclosedBlocks 1, 5, .warning, none⟩] ∧ ¬ Editor.Quiet choiceSource) ∧
      ((Editor.tokens procedureSource.toList).map (·.token) = procedure.tokens ∧
        (Editor.analyze procedureSource.toList).diagnostics =
          [⟨Editor.unexpectedEnd "end", 3, .warning, none⟩] ∧ ¬ Editor.Quiet procedureSource) := by
  have hchoice : (Editor.analyze choiceSource.toList).diagnostics =
      [⟨Editor.unclosedBlocks 1, 5, .warning, none⟩] := by decide +kernel
  have hprocedure : (Editor.analyze procedureSource.toList).diagnostics =
      [⟨Editor.unexpectedEnd "end", 3, .warning, none⟩] := by decide +kernel
  refine ⟨⟨by decide +kernel, hchoice, fun h => ?_⟩, by decide +kernel, hprocedure, fun h => ?_⟩
  · exact h _ (by rw [hchoice]; exact List.mem_singleton_self _) (.inr ⟨1, rfl⟩)
  · exact h _ (by rw [hprocedure]; exact List.mem_singleton_self _) (.inl ⟨"end", rfl⟩)

end Flowline
