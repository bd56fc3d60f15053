import Mathlib.Data.List.Forall2
import Mathlib.Data.List.TakeWhile
import Mathlib.Tactic.Lemma
import Flowline.Proofs.Segments

/-!
The grammar of lines.

`Writes` says which statement a token stands for and `Breaks` how a token is refused, both in terms of
the words on the line alone. Reading a token decides between the two, and reading a list of tokens
gives one statement for each of them, in order, or reports the first that breaks a rule.
-/

namespace Flowline

/-- `word` comes right after the first `sign` among the words. -/
def ComesAfter (sign : String) (args : List String) (word : String) : Prop :=
  ∃ before after, args = before ++ sign :: word :: after ∧ sign ∉ before

def colonForms : List (String × Action) :=
  [("否则", .else_), ("else", .else_), ("试", .try_), ("try", .try_), ("终于", .finally_),
    ("finally", .finally_)]

def Action.IsForm (a : Action) (word : String) : Prop := word = a.words.1 ∨ word = a.words.2

namespace Token

def IsMarked (t : Token) : Prop := t.action ∉ blockEndWords ∧ t.state ∈ lineStates

def HasColon (t : Token) : Prop := ∃ name, t.action = name ++ ":"

/-- The statement of a token. -/
inductive Writes (t : Token) : Statement → Prop
  | blockEnd (h : t.action ∈ blockEndWords) : Writes t (.blockEnd t.state)
  | clause {name : String} {a : Action} (h : t.IsMarked) (hname : t.action = name ++ ":")
      (ha : (name, a) ∈ colonForms) : Writes t (.line a [] t.state)
  | block {name : String} (h : t.IsMarked) (hname : t.action = name ++ ":")
      (ha : ∀ a, (name, a) ∉ colonForms) : Writes t (.block name t.state)
  | rightArrow {word : String} (h : t.IsMarked) (hcolon : ¬ t.HasColon)
      (hword : ComesAfter "->" t.args word) : Writes t (.arrow t.action word .right t.state)
  | leftArrow {word : String} (h : t.IsMarked) (hcolon : ¬ t.HasColon) (hright : "->" ∉ t.args)
      (hword : ComesAfter "<-" t.args word) : Writes t (.arrow word t.action .left t.state)
  | line {a : Action} (h : t.IsMarked) (hcolon : ¬ t.HasColon) (hright : "->" ∉ t.args)
      (hleft : "<-" ∉ t.args) (ha : a.IsForm t.action) : Writes t (.line a t.args t.state)

/-- The message for a token that is no statement. -/
inductive Breaks (t : Token) : String → Prop
  | state (h : t.action ∉ blockEndWords) (hstate : t.state ∉ lineStates) :
      Breaks t ("Invalid line_state: " ++ t.state)
  | rightArrow (h : t.IsMarked) (hcolon : ¬ t.HasColon) (hright : "->" ∈ t.args)
      (hword : ∀ word, ¬ ComesAfter "->" t.args word) : Breaks t "Arrow missing target"
  | leftArrow (h : t.IsMarked) (hcolon : ¬ t.HasColon) (hright : "->" ∉ t.args)
      (hleft : "<-" ∈ t.args) (hword : ∀ word, ¬ ComesAfter "<-" t.args word) :
      Breaks t "Arrow missing target"
  | line (h : t.IsMarked) (hcolon : ¬ t.HasColon) (hright : "->" ∉ t.args) (hleft : "<-" ∉ t.args)
      (ha : ∀ a : Action, ¬ a.IsForm t.action) : Breaks t ("Unknown action: " ++ t.action)

/-- The tokens that are statements. -/
def WellFormed (t : Token) : Prop :=
  t.action ∈ blockEndWords ∨
    t.state ∈ lineStates ∧
      (t.HasColon ∨ (∃ word, ComesAfter "->" t.args word) ∨
        ("->" ∉ t.args ∧ ∃ word, ComesAfter "<-" t.args word) ∨
        ("->" ∉ t.args ∧ "<-" ∉ t.args ∧ ∃ a : Action, a.IsForm t.action))

end Token

/-! ### The words of a line -/

lemma isBlockEnd_iff (word : String) : isBlockEnd word = true ↔ word ∈ blockEndWords := by
  simp [isBlockEnd]

lemma ComesAfter.mem {sign word : String} {args : List String} (h : ComesAfter sign args word) :
    sign ∈ args := by
  obtain ⟨before, after, rfl, -⟩ := h
  simp

lemma Action.ofWord?_words (a : Action) :
    Action.ofWord? a.words.1 = some a ∧ Action.ofWord? a.words.2 = some a := by
  cases a <;> decide

lemma Action.ofWord?_eq_some_iff {word : String} {a : Action} :
    Action.ofWord? word = some a ↔ a.IsForm word := by
  constructor
  · intro h
    have hform := List.find?_some h
    simp only [Bool.or_eq_true, beq_iff_eq] at hform
    exact hform.imp Eq.symm Eq.symm
  · rintro (rfl | rfl)
    · exact a.ofWord?_words.1
    · exact a.ofWord?_words.2

lemma Action.ofWord?_eq_none_iff {word : String} :
    Action.ofWord? word = none ↔ ∀ a : Action, ¬ a.IsForm word := by
  rw [Option.eq_none_iff_forall_ne_some]
  simp [Action.ofWord?_eq_some_iff]

namespace Token

lemma colonName?_eq_some_iff {word name : String} :
    colonName? word = some name ↔ word = name ++ ":" := by
  unfold colonName?
  constructor
  · intro h
    split at h
    · next hlast =>
      obtain ⟨cs, hcs⟩ := List.getLast?_eq_some_iff.mp hlast
      obtain rfl : String.ofList word.toList.dropLast = name := by simpa using h
      rw [← String.toList_inj, hcs]
      simp
    · simp at h
  · rintro rfl
    simp

lemma colonName?_eq_none_iff (t : Token) : colonName? t.action = none ↔ ¬ t.HasColon := by
  rw [Option.eq_none_iff_forall_ne_some]
  simp [HasColon, colonName?_eq_some_iff]

lemma colonAction?_eq_some_iff {name : String} {a : Action} :
    colonAction? name = some a ↔ (name, a) ∈ colonForms := by
  unfold colonAction?
  split_ifs with h₁ h₂ h₃
  · rcases (by simpa using h₁ : name = "否则" ∨ name = "else") with rfl | rfl <;>
      simp [colonForms, eq_comm]
  · rcases (by simpa using h₂ : name = "试" ∨ name = "try") with rfl | rfl <;>
      simp [colonForms, eq_comm]
  · rcases (by simpa using h₃ : name = "终于" ∨ name = "finally") with rfl | rfl <;>
      simp [colonForms, eq_comm]
  · simp_all [colonForms]

lemma colonAction?_eq_none_iff {name : String} :
    colonAction? name = none ↔ ∀ a, (name, a) ∉ colonForms := by
  rw [Option.eq_none_iff_forall_ne_some]
  simp [colonAction?_eq_some_iff]

def wordAfter (sign : String) (args : List String) : Option String :=
  (args.dropWhile (· != sign)).tail.head?

lemma comesAfter_iff {sign word : String} {args : List String} :
    wordAfter sign args = some word ↔ ComesAfter sign args word := by
  unfold wordAfter
  constructor
  · intro h
    have hsplit := List.takeWhile_append_dropWhile (p := (· != sign)) (l := args)
    rcases hd : args.dropWhile (· != sign) with _ | ⟨x, rest⟩
    · simp [hd] at h
    · rw [hd] at h hsplit
      obtain rfl : x = sign := by
        have := List.head?_dropWhile_not (· != sign) args
        simpa [hd] using this
      rcases rest with _ | ⟨y, after⟩
      · simp at h
      · obtain rfl : y = word := by simpa using h
        refine ⟨args.takeWhile (· != x), after, hsplit.symm, ?_⟩
        · intro hmem
          have := List.mem_takeWhile_imp hmem
          simp at this
  · rintro ⟨before, after, rfl, hbefore⟩
    have hdrop : before.dropWhile (· != sign) = [] := by
      rw [List.dropWhile_eq_nil_iff]
      intro w hw
      have : w ≠ sign := fun h => hbefore (h ▸ hw)
      simpa using this
    rw [List.dropWhile_append, hdrop]
    simp

lemma wordAfter_eq_none_iff {sign : String} {args : List String} :
    wordAfter sign args = none ↔ ∀ word, ¬ ComesAfter sign args word := by
  rw [Option.eq_none_iff_forall_ne_some]
  simp [comesAfter_iff]

lemma arrow?_of_right {args : List String} (h : "->" ∈ args) :
    arrow? args = some (.right, wordAfter "->" args) := by
  simp [arrow?, wordAfter, Direction.sign, h]

lemma arrow?_of_left {args : List String} (hr : "->" ∉ args) (hl : "<-" ∈ args) :
    arrow? args = some (.left, wordAfter "<-" args) := by
  simp [arrow?, wordAfter, Direction.sign, hr, hl]

lemma arrow?_of_none {args : List String} (hr : "->" ∉ args) (hl : "<-" ∉ args) :
    arrow? args = none := by
  simp [arrow?, Direction.sign, hr, hl]

/-! ### One token -/

/-- Reading a token gives what it writes, or refuses it as it breaks a rule. -/
lemma statement_spec (t : Token) :
    (∃ s, t.statement = .ok s ∧ t.Writes s) ∨ ∃ e, t.statement = .error e ∧ t.Breaks e.message := by
  unfold statement
  -- the cases come in the order in which the forms take precedence
  by_cases hend : t.action ∈ blockEndWords
  · rw [if_pos ((isBlockEnd_iff _).mpr hend)]
    exact .inl ⟨_, rfl, .blockEnd hend⟩
  rw [if_neg (fun h => hend ((isBlockEnd_iff _).mp h))]
  by_cases hstate : t.state ∈ lineStates
  swap
  · rw [if_pos (by simpa [isLineState] using hstate)]
    exact .inr ⟨_, rfl, .state hend hstate⟩
  rw [if_neg (by simpa [isLineState] using hstate)]
  have hmarked : t.IsMarked := ⟨hend, hstate⟩
  rcases hcolon : colonName? t.action with _ | name
  swap
  · have hname := colonName?_eq_some_iff.mp hcolon
    simp only
    rcases ha : colonAction? name with _ | a
    · exact .inl ⟨_, rfl, .block hmarked hname (colonAction?_eq_none_iff.mp ha)⟩
    · exact .inl ⟨_, rfl, .clause hmarked hname (colonAction?_eq_some_iff.mp ha)⟩
  have hnocolon := (colonName?_eq_none_iff t).mp hcolon
  by_cases hright : "->" ∈ t.args
  · rw [arrow?_of_right hright]
    rcases hw : wordAfter "->" t.args with _ | word
    · have hnone := wordAfter_eq_none_iff.mp hw
      exact .inr ⟨_, rfl, .rightArrow hmarked hnocolon hright hnone⟩
    · exact .inl ⟨_, rfl, .rightArrow hmarked hnocolon (comesAfter_iff.mp hw)⟩
  by_cases hleft : "<-" ∈ t.args
  · rw [arrow?_of_left hright hleft]
    rcases hw : wordAfter "<-" t.args with _ | word
    · have hnone := wordAfter_eq_none_iff.mp hw
      exact .inr ⟨_, rfl, .leftArrow hmarked hnocolon hright hleft hnone⟩
    · exact .inl ⟨_, rfl, .leftArrow hmarked hnocolon hright (comesAfter_iff.mp hw)⟩
  rw [arrow?_of_none hright hleft]
  rcases ha : Action.ofWord? t.action with _ | a
  · have hnone := Action.ofWord?_eq_none_iff.mp ha
    exact .inr ⟨_, rfl, .line hmarked hnocolon hright hleft hnone⟩
  · exact .inl ⟨_, rfl, .line hmarked hnocolon hright hleft (Action.ofWord?_eq_some_iff.mp ha)⟩

lemma Writes.wellFormed {t : Token} {s : Statement} (h : t.Writes s) : t.WellFormed := by
  cases h with
  | blockEnd h => exact .inl h
  | clause h hname ha => exact .inr ⟨h.2, .inl ⟨_, hname⟩⟩
  | block h hname ha => exact .inr ⟨h.2, .inl ⟨_, hname⟩⟩
  | rightArrow h hcolon hword => exact .inr ⟨h.2, .inr (.inl ⟨_, hword⟩)⟩
  | leftArrow h hcolon hright hword => exact .inr ⟨h.2, .inr (.inr (.inl ⟨hright, _, hword⟩))⟩
  | line h hcolon hright hleft ha =>
    exact .inr ⟨h.2, .inr (.inr (.inr ⟨hright, hleft, _, ha⟩))⟩

lemma Breaks.not_wellFormed {t : Token} {message : String} (h : t.Breaks message) :
    ¬ t.WellFormed := by
  cases h with
  | state h hstate =>
    rintro (hend | ⟨hs, -⟩)
    · exact h hend
    · exact hstate hs
  | rightArrow h hcolon hright hword =>
    rintro (hend | ⟨-, hc | ⟨word, hw⟩ | ⟨hr, -⟩ | ⟨hr, -⟩⟩)
    · exact h.1 hend
    · exact hcolon hc
    · exact hword word hw
    · exact hr hright
    · exact hr hright
  | leftArrow h hcolon hright hleft hword =>
    rintro (hend | ⟨-, hc | ⟨word, hw⟩ | ⟨-, word, hw⟩ | ⟨-, hl, -⟩⟩)
    · exact h.1 hend
    · exact hcolon hc
    · exact hright hw.mem
    · exact hword word hw
    · exact hl hleft
  | line h hcolon hright hleft ha =>
    rintro (hend | ⟨-, hc | ⟨word, hw⟩ | ⟨-, word, hw⟩ | ⟨-, -, a, hform⟩⟩)
    · exact h.1 hend
    · exact hcolon hc
    · exact hright hw.mem
    · exact hleft hw.mem
    · exact ha a hform

lemma writes_of_ok {t : Token} {s : Statement} (h : t.statement = .ok s) : t.Writes s := by
  obtain ⟨s', hs', hw⟩ | ⟨e, he, -⟩ := t.statement_spec
  · rw [h] at hs'
    cases hs'
    exact hw
  · rw [h] at he
    cases he

lemma breaks_of_error {t : Token} {e : ParseError} (h : t.statement = .error e) :
    t.Breaks e.message := by
  obtain ⟨s, hs, -⟩ | ⟨e', he', hb⟩ := t.statement_spec
  · rw [h] at hs
    cases hs
  · rw [h] at he'
    cases he'
    exact hb

lemma statement_of_writes {t : Token} {s : Statement} (h : t.Writes s) : t.statement = .ok s := by
  have hmark (h : t.IsMarked) : isBlockEnd t.action = false ∧ isLineState t.state = true := by
    obtain ⟨hend, hstate⟩ := h
    simpa [isBlockEnd, isLineState] using And.intro hend hstate
  cases h with
  | blockEnd h => rw [statement, if_pos ((isBlockEnd_iff _).mpr h)]
  | clause h hname ha =>
    simp [statement, hmark h, colonName?_eq_some_iff.mpr hname, colonAction?_eq_some_iff.mpr ha]
  | block h hname ha =>
    simp [statement, hmark h, colonName?_eq_some_iff.mpr hname, colonAction?_eq_none_iff.mpr ha]
  | rightArrow h hcolon hword =>
    simp [statement, hmark h, (colonName?_eq_none_iff t).mpr hcolon, arrow?_of_right hword.mem,
      comesAfter_iff.mpr hword]
  | leftArrow h hcolon hright hword =>
    simp [statement, hmark h, (colonName?_eq_none_iff t).mpr hcolon,
      arrow?_of_left hright hword.mem, comesAfter_iff.mpr hword]
  | line h hcolon hright hleft ha =>
    simp [statement, hmark h, (colonName?_eq_none_iff t).mpr hcolon,
      arrow?_of_none hright hleft, Action.ofWord?_eq_some_iff.mpr ha]

lemma rightUnique_writes : Relator.RightUnique Token.Writes := by
  intro t s s' h h'
  have heq := (statement_of_writes h).symm.trans (statement_of_writes h')
  cases heq
  rfl

lemma wellFormed_iff (t : Token) : t.WellFormed ↔ ∃ s, t.statement = .ok s := by
  constructor
  · intro h
    obtain ⟨s, hs, -⟩ | ⟨e, -, hb⟩ := t.statement_spec
    · exact ⟨s, hs⟩
    · exact absurd h hb.not_wellFormed
  · rintro ⟨s, hs⟩
    exact (writes_of_ok hs).wellFormed

end Token

/-! ### Lists of tokens -/

/-- Going through a list either gives a result for every element, or stops at the first that
fails. -/
lemma mapM_spec {α β ε : Type} (f : α → Except ε β) (xs : List α) :
    (∃ ys, xs.mapM f = .ok ys ∧ List.Forall₂ (fun x y => f x = .ok y) xs ys) ∨
      ∃ e before x after, xs.mapM f = .error e ∧ xs = before ++ x :: after ∧
        (∀ u ∈ before, ∃ y, f u = .ok y) ∧ f x = .error e := by
  induction xs with
  | nil => exact .inl ⟨[], rfl, .nil⟩
  | cons x xs ih =>
    rcases hx : f x with e | y
    · refine .inr ⟨e, [], x, xs, ?_, rfl, by simp, hx⟩
      rw [List.mapM_cons, hx]
      rfl
    · obtain ⟨ys, hys, hall⟩ | ⟨e, before, u, after, he, rfl, hbefore, hu⟩ := ih
      · refine .inl ⟨y :: ys, ?_, .cons hx hall⟩
        rw [List.mapM_cons, hx, hys]
        rfl
      · refine .inr ⟨e, x :: before, u, after, ?_, rfl, ?_, hu⟩
        · rw [List.mapM_cons, hx, he]
          rfl
        · intro v hv
          rcases List.mem_cons.mp hv with rfl | hv'
          · exact ⟨y, hx⟩
          · exact hbefore v hv'

lemma parseTokens_spec (ts : List Token) :
    (∃ ss, parseTokens ts = .ok (.ofFlagged (ss.zip (ts.map Token.endsSegment))) ∧
        List.Forall₂ (fun t s => t.statement = .ok s) ts ss) ∨
      ∃ e before t after, parseTokens ts = .error e ∧ ts = before ++ t :: after ∧
        (∀ u ∈ before, ∃ s, u.statement = .ok s) ∧ t.statement = .error e := by
  obtain ⟨ss, hss, hall⟩ | ⟨e, before, t, after, he, hts, hbefore, ht⟩ :=
    mapM_spec Token.statement ts
  · refine .inl ⟨ss, ?_, hall⟩
    rw [parseTokens, hss]
    rfl
  · refine .inr ⟨e, before, t, after, ?_, hts, hbefore, ht⟩
    rw [parseTokens, he]
    rfl

/-- A list that is accepted: every statement is what its token writes. -/
lemma program_of_ok {ts : List Token} {p : Program Statement} (h : parseTokens ts = .ok p) :
    ∃ ss, p = .ofFlagged (ss.zip (ts.map Token.endsSegment)) ∧ List.Forall₂ Token.Writes ts ss := by
  obtain ⟨ss, hp, hall⟩ | ⟨e, before, t, after, he, -⟩ := parseTokens_spec ts
  · rw [h] at hp
    exact ⟨ss, Except.ok.inj hp, hall.imp fun t s hs => Token.writes_of_ok hs⟩
  · rw [h] at he
    cases he

lemma writes_statements {ts : List Token} {p : Program Statement} (h : parseTokens ts = .ok p) :
    List.Forall₂ Token.Writes ts p.statements := by
  obtain ⟨ss, rfl, hall⟩ := program_of_ok h
  have hlen : ss.length ≤ (ts.map Token.endsSegment).length := by
    rw [List.length_map, hall.length_eq]
  rw [Program.statements_ofFlagged, List.map_fst_zip hlen]
  exact hall

lemma length_flows {ts : List Token} {p : Program Statement} (h : parseTokens ts = .ok p) :
    p.flows.length = if ts = [] then 0 else 1 := by
  obtain ⟨ss, rfl, hall⟩ := program_of_ok h
  have hlen := hall.length_eq
  have hempty : ss.zip (ts.map Token.endsSegment) = [] ↔ ts = [] := by
    rw [← List.length_eq_zero_iff, ← List.length_eq_zero_iff, List.length_zip, List.length_map]
    omega
  rw [Program.length_flows_ofFlagged]
  simp only [hempty]

/-- A list that is refused: some token is the first to break a rule. -/
lemma first_break {ts : List Token} {e : ParseError} (h : parseTokens ts = .error e) :
    ∃ before t after, ts = before ++ t :: after ∧ (∀ u ∈ before, u.WellFormed) ∧
      t.Breaks e.message := by
  obtain ⟨ss, hp, -⟩ | ⟨e', before, t, after, he, hts, hbefore, ht⟩ := parseTokens_spec ts
  · rw [h] at hp
    cases hp
  · rw [h] at he
    cases he
    refine ⟨before, t, after, hts, fun u hu => ?_, Token.breaks_of_error ht⟩
    exact (u.wellFormed_iff).mpr (hbefore u hu)

/-- **The grammar**: a list of tokens is accepted if and only if all of them are well formed. Then the
program has one statement for each token, in order, in one flow without an empty segment; otherwise
the message is that of the first token that is not well formed. -/
theorem parseTokens_grammar (ts : List Token) :
    ((∃ p, parseTokens ts = .ok p) ↔ ∀ t ∈ ts, t.WellFormed) ∧
      match parseTokens ts with
      | .ok p =>
        (∀ ss, List.Forall₂ Token.Writes ts ss ↔ ss = p.statements) ∧
          p.flows.length = (if ts = [] then 0 else 1) ∧
          ∀ segments ∈ p.flows, ∀ segment ∈ segments, segment ≠ []
      | .error e =>
        ∃ before t after, ts = before ++ t :: after ∧ (∀ u ∈ before, u.WellFormed) ∧
          ¬ t.WellFormed ∧ t.Breaks e.message := by
  rcases hp : parseTokens ts with e | p
  · -- the first token that is no statement
    obtain ⟨before, t, after, hts, hbefore, hbreaks⟩ := first_break hp
    have hbad := hbreaks.not_wellFormed
    have hmem : t ∈ ts := by simp [hts]
    refine ⟨⟨?_, fun h => absurd (h t hmem) hbad⟩, before, t, after, hts, hbefore, hbad, hbreaks⟩
    rintro ⟨p, hp⟩
    cases hp
  · -- all tokens are statements
    have hwrites := writes_statements hp
    have hformed := (List.forall₂_and_left ts p.statements).mp
      (hwrites.imp fun t s h => ⟨h.wellFormed, h⟩)
    refine ⟨⟨fun _ => hformed.1, fun _ => ⟨p, rfl⟩⟩, ?_, length_flows hp, ?_⟩
    · intro ss
      constructor
      · exact fun h => Token.rightUnique_writes.forall₂ h hwrites
      · rintro rfl
        exact hwrites
    · obtain ⟨ss, rfl, -⟩ := program_of_ok hp
      intro segments hs segment h
      exact Program.segment_ne_nil hs h

end Flowline
