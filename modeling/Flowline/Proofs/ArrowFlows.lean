import Mathlib.Data.List.Forall2
import Mathlib.Tactic.Lemma
import Flowline.Flow.Intents
import Flowline.Proofs.Grammar
import Flowline.Proofs.LooseTrees

/-!
The flow of a program is that of its arrows.

Every token is a statement of its own, and only arrows have intents. So the lines between the arrows
can be left out, and an arrow can be written in the other direction: its two words change places on
the line, and the sign says which of them it comes from. The segments and the flow around the arrows
do not matter either, so reading the tree from outside gives the same.
-/

namespace Flowline

variable {lex : Lexicon}

/-! ### The flow of a tree that comes as data -/

namespace Loose

/-- Nodes have the intents of the statements in them. -/
def Floor.ReadBy {β : Type} (F : Floor β) (lex : Lexicon)
    (each : Datum → Except Fault (List String)) : Prop :=
  ∀ b, each (F.datum b) = .ok ((F.held b).flatMap (Statement.intents lex))

section

variable {β : Type} {F : Floor β} {each : Datum → Except Fault (List String)}

/-- A list of nodes has the intents of the statements in all of them. -/
lemma Floor.ReadBy.loop (h : F.ReadBy lex each) (bs : List β) (passed : List (List String)) :
    List.flatMapM.loop each (bs.map F.datum) passed =
      .ok (passed.reverse.flatten ++ (bs.flatMap F.held).flatMap (Statement.intents lex)) := by
  induction bs generalizing passed with
  | nil => simp [List.flatMapM.loop, pure, Except.pure]
  | cons b bs ih =>
    simp only [List.map_cons, List.flatMapM.loop, bind, Except.bind, h b, ih]
    simp

lemma Floor.ReadBy.above (h : F.ReadBy lex each) (name children : String)
    (hc : children ≠ "type") :
    (F.above name children).ReadBy lex fun d => parts children d >>= (List.flatMapM each ·) := by
  intro bs
  have htype : (children == "type") = false := by simpa using hc
  have hparts : parts children ((F.above name children).datum bs) = .ok (bs.map F.datum) := by
    simp [parts, Floor.above, Datum.field, Record.getD, List.lookup_cons, htype, bind, Except.bind,
      Datum.elements]
  simp only [hparts, bind, Except.bind]
  exact h.loop bs []

end

lemma ground_readBy (lex : Lexicon) : ground.ReadBy lex (statementIntents lex) := by
  intro s
  have hone : (ground.held s).flatMap (Statement.intents lex) = s.intents lex := by
    simp [ground]
  rw [hone]
  cases s <;> rfl

lemma flowOf_toDatum (lex : Lexicon) (p : Program Statement) :
    flowOf lex (p.toDatum Statement.toDatum) = .ok (p.flow lex) := by
  have hsegment := (ground_readBy lex).above "Segment" "lines" (by decide)
  have hflow := hsegment.above "Flow" "segments" (by decide)
  have hprogram := hflow.above "Program" "flows" (by decide) p.flows
  have hheld := held_program p.flows
  have hdatum := datum_program p.flows
  simp only [programFloor, flowFloor, segmentFloor] at hheld hdatum
  rw [hheld, hdatum] at hprogram
  exact hprogram

end Loose

/-! ### Arrows and other lines -/

/-- The intents of a word: one, unless the lexicon has none for it or an empty one. -/
def Lexicon.known (lex : Lexicon) (word : String) : List String :=
  (lex.ofWord? word).toList.filter (· ≠ "")

lemma presentIntent_eq_known (lex : Lexicon) (word : String) :
    presentIntent (lex.ofWord? word) = lex.known word := by
  unfold Lexicon.known
  cases lex.ofWord? word with
  | none => rfl
  | some intent => by_cases h : intent = "" <;> simp [presentIntent, h]

def Statement.ends? : Statement → Option (String × String)
  | .arrow source target _ _ => some (source, target)
  | _ => none

namespace Token

variable {t u : Token} {s : Statement}

def Points (t : Token) (source target : String) : Prop :=
  ∃ direction, t.Writes (.arrow source target direction t.state)

def yieldsArrow (t : Token) : Bool :=
  match t.statement with
  | .ok s => s.ends?.isSome
  | .error _ => false

/-- The word can begin a line with an arrow and can stand at its other end. -/
structure IsEnd (word : String) : Prop where
  closesNothing : word ∉ blockEndWords
  noSign : word ≠ "->" ∧ word ≠ "<-"
  noColon : ¬ ∃ name, word = name ++ ":"

/-- The second token is the first, or the same arrow written in the other direction. -/
inductive Turned : Token → Token → Prop
  | same (t : Token) : Turned t t
  | toLeft {a b state : String} {before after : List String} (ha : IsEnd a) (hb : IsEnd b)
      (hrest : ∀ word ∈ before ++ after, word ≠ "->" ∧ word ≠ "<-") :
      Turned ⟨a, before ++ "->" :: b :: after, state⟩ ⟨b, before ++ "<-" :: a :: after, state⟩
  | toRight {a b state : String} {before after : List String} (ha : IsEnd a) (hb : IsEnd b)
      (hrest : ∀ word ∈ before ++ after, word ≠ "->" ∧ word ≠ "<-") :
      Turned ⟨b, before ++ "<-" :: a :: after, state⟩ ⟨a, before ++ "->" :: b :: after, state⟩

lemma writes_both_ways {a b state : String} {before after : List String} (ha : IsEnd a)
    (hb : IsEnd b) (hrest : ∀ word ∈ before ++ after, word ≠ "->" ∧ word ≠ "<-")
    (hstate : state ∈ lineStates) :
    Writes ⟨a, before ++ "->" :: b :: after, state⟩ (.arrow a b .right state) ∧
      Writes ⟨b, before ++ "<-" :: a :: after, state⟩ (.arrow a b .left state) := by
  have hbefore (word : String) (hmem : word ∈ before) : word ≠ "->" ∧ word ≠ "<-" :=
    hrest word (List.mem_append_left after hmem)
  have hafter (word : String) (hmem : word ∈ after) : word ≠ "->" ∧ word ≠ "<-" :=
    hrest word (List.mem_append_right before hmem)
  -- a right arrow would take precedence over the left one
  have hright : "->" ∉ before ++ "<-" :: a :: after := by
    intro hmem
    rcases List.mem_append.mp hmem with h | h
    · exact (hbefore _ h).1 rfl
    · rcases List.mem_cons.mp h with h | h
      · exact absurd h (by decide)
      · rcases List.mem_cons.mp h with h | h
        · exact ha.noSign.1 h.symm
        · exact (hafter _ h).1 rfl
  constructor
  · exact .rightArrow ⟨ha.closesNothing, hstate⟩ ha.noColon
      ⟨before, after, rfl, fun hmem => (hbefore _ hmem).1 rfl⟩
  · exact .leftArrow ⟨hb.closesNothing, hstate⟩ hb.noColon hright
      ⟨before, after, rfl, fun hmem => (hbefore _ hmem).2 rfl⟩

lemma Writes.marked (h : t.Writes s) (ht : t.action ∉ blockEndWords) : t.state ∈ lineStates := by
  rcases h.wellFormed with hend | hmarked
  · exact absurd hend ht
  · exact hmarked.1

lemma Turned.writes (lex : Lexicon) (h : t.Turned u) (hs : t.Writes s) :
    ∃ s', u.Writes s' ∧ s'.intents lex = s.intents lex := by
  cases h with
  | same => exact ⟨s, hs, rfl⟩
  | @toLeft a b state before after ha hb hrest =>
    obtain ⟨hright, hleft⟩ := writes_both_ways ha hb hrest (hs.marked ha.closesNothing)
    obtain rfl := rightUnique_writes hs hright
    exact ⟨_, hleft, rfl⟩
  | @toRight a b state before after ha hb hrest =>
    obtain ⟨hright, hleft⟩ := writes_both_ways ha hb hrest (hs.marked hb.closesNothing)
    obtain rfl := rightUnique_writes hs hleft
    exact ⟨_, hright, rfl⟩

lemma Writes.yieldsArrow (h : t.Writes s) : t.yieldsArrow = s.ends?.isSome := by
  rw [Token.yieldsArrow, statement_of_writes h]

lemma Writes.points {source target state : String} {direction : Direction}
    (h : t.Writes (.arrow source target direction state)) : t.Points source target := by
  refine ⟨direction, ?_⟩
  cases h with
  | rightArrow hmarked hcolon hword => exact .rightArrow hmarked hcolon hword
  | leftArrow hmarked hcolon hright hword => exact .leftArrow hmarked hcolon hright hword

end Token

/-! ### Lists of tokens -/

variable {ts us : List Token} {ss : List Statement}

lemma parseTokens_of_writes (h : List.Forall₂ Token.Writes ts ss) :
    ∃ p, parseTokens ts = .ok p ∧ p.statements = ss := by
  have hformed : ∀ t ∈ ts, t.WellFormed :=
    ((List.forall₂_and_left ts ss).mp (h.imp fun t s hs => ⟨hs.wellFormed, hs⟩)).1
  obtain ⟨rs, hp, -⟩ | ⟨e, before, t, after, -, rfl, -, ht⟩ := parseTokens_spec ts
  · refine ⟨_, hp, ?_⟩
    exact Token.rightUnique_writes.forall₂ (writes_statements hp) h
  · obtain ⟨s, hs⟩ := (t.wellFormed_iff).mp (hformed t (by simp))
    rw [ht] at hs
    cases hs

lemma flatMap_intents (lex : Lexicon) (ss : List Statement) :
    ss.flatMap (Statement.intents lex) =
      (ss.filterMap Statement.ends?).flatMap fun e => lex.known e.1 ++ lex.known e.2 := by
  induction ss with
  | nil => rfl
  | cons s ss ih =>
    cases s with
    | arrow source target direction state =>
      simp only [List.flatMap_cons, List.filterMap_cons, Statement.ends?, Statement.intents,
        presentIntent_eq_known, ih]
    | line | block | blockEnd =>
      simpa only [List.flatMap_cons, List.filterMap_cons, Statement.ends?, Statement.intents,
        List.nil_append] using ih

/-- The arrows among the tokens, in order, are those among the statements. -/
lemma points_filter (h : List.Forall₂ Token.Writes ts ss) :
    List.Forall₂ (fun t e => t.Points e.1 e.2) (ts.filter Token.yieldsArrow)
      (ss.filterMap Statement.ends?) := by
  induction h with
  | nil => exact .nil
  | @cons t s ts ss hs _ ih =>
    have hyields := hs.yieldsArrow
    cases s with
    | arrow source target direction state =>
      rw [List.filter_cons_of_pos hyields]
      exact .cons hs.points ih
    | line | block | blockEnd =>
      rw [List.filter_cons_of_neg (by simp [hyields, Statement.ends?])]
      exact ih

lemma filterMap_ends (ss : List Statement) :
    (ss.filter fun s => s.ends?.isSome).filterMap Statement.ends? =
      ss.filterMap Statement.ends? := by
  rw [List.filterMap_filter]
  congr 1
  funext s
  cases s <;> rfl

lemma writes_filter (h : List.Forall₂ Token.Writes ts ss) :
    List.Forall₂ Token.Writes (ts.filter Token.yieldsArrow)
      (ss.filter fun s => s.ends?.isSome) := by
  refine List.rel_filter (fun t s hs => ?_) h
  have hkept : t.yieldsArrow = true ↔ s.ends?.isSome = true := by rw [hs.yieldsArrow]
  exact hkept

lemma writes_turned (lex : Lexicon) (hturned : List.Forall₂ Token.Turned ts us)
    (h : List.Forall₂ Token.Writes ts ss) :
    ∃ rs, List.Forall₂ Token.Writes us rs ∧
      rs.flatMap (Statement.intents lex) = ss.flatMap (Statement.intents lex) := by
  induction hturned generalizing ss with
  | nil =>
    cases h
    exact ⟨[], .nil, rfl⟩
  | cons hfirst _ ih =>
    cases h with
    | cons hs hrest =>
      obtain ⟨s', hs', hintents⟩ := hfirst.writes lex hs
      obtain ⟨rs, hrs, hall⟩ := ih hrest
      refine ⟨s' :: rs, .cons hs' hrs, ?_⟩
      rw [List.flatMap_cons, List.flatMap_cons, hintents, hall]

/-- The tokens are accepted, and this is the flow of their program, also when its tree comes as
data. -/
def HasFlow (lex : Lexicon) (ts : List Token) (flow : List String) : Prop :=
  ∃ p, parseTokens ts = .ok p ∧ p.flow lex = flow ∧
    Loose.flowOf lex (p.toDatum Statement.toDatum) = .ok flow

lemma hasFlow_of_writes (h : List.Forall₂ Token.Writes ts ss) {flow : List String}
    (hflow : ss.flatMap (Statement.intents lex) = flow) : HasFlow lex ts flow := by
  obtain ⟨p, hp, rfl⟩ := parseTokens_of_writes h
  have hp' : p.flow lex = flow := hflow
  exact ⟨p, hp, hp', hp' ▸ Loose.flowOf_toDatum lex p⟩

/-- **A flow depends on the arrows alone**: for tokens that are accepted it is made of the intents
of the words that the arrows among them come from and go to, in order. It stays the same when all
other tokens are left out, and when any of the arrows are written in the other direction. -/
theorem flow_of_arrows (lex : Lexicon) (ts : List Token) (p : Program Statement)
    (h : parseTokens ts = .ok p) :
    HasFlow lex ts (p.flow lex) ∧
      (∃ arrows : List (String × String),
        List.Forall₂ (fun t e => t.Points e.1 e.2) (ts.filter Token.yieldsArrow) arrows ∧
          p.flow lex = arrows.flatMap fun e => lex.known e.1 ++ lex.known e.2) ∧
      HasFlow lex (ts.filter Token.yieldsArrow) (p.flow lex) ∧
      ∀ us, List.Forall₂ Token.Turned ts us → HasFlow lex us (p.flow lex) := by
  have hwrites := writes_statements h
  refine ⟨hasFlow_of_writes hwrites rfl,
    ⟨_, points_filter hwrites, flatMap_intents lex p.statements⟩, ?_, fun us hturned => ?_⟩
  · refine hasFlow_of_writes (writes_filter hwrites) ?_
    rw [flatMap_intents, filterMap_ends, ← flatMap_intents, Program.flow]
  · obtain ⟨rs, hrs, hflow⟩ := writes_turned lex hturned hwrites
    exact hasFlow_of_writes hrs hflow

def mixedArrows : List Token :=
  [⟨"流程:", [], "~"⟩, ⟨"输入", ["->", "解析"], ">"⟩, ⟨"印", ["x"], "~"⟩,
    ⟨"行动", ["<-", "判断"], ">"⟩, ⟨"终", [], "~"⟩]

def turnedArrows : List Token :=
  [⟨"流程:", [], "~"⟩, ⟨"解析", ["<-", "输入"], ">"⟩, ⟨"印", ["x"], "~"⟩,
    ⟨"判断", ["->", "行动"], ">"⟩, ⟨"终", [], "~"⟩]

def stepLexicon : Lexicon :=
  ⟨[(.text "行动", "INTENT_ACTION"), (.text "输入", "INTENT_INPUT"),
    (.text "解析", "INTENT_PARSE")]⟩

def mixedArrowsProgram : Program Statement :=
  ⟨[[[.block "流程" "~", .arrow "输入" "解析" .right ">"],
    [.line .print ["x"] "~", .arrow "判断" "行动" .left ">"], [.blockEnd "~"]]]⟩

/-- The word that the lexicon does not know is passed over, and the flow stays as it is. -/
theorem mixedArrows_flow :
    parseTokens mixedArrows = .ok mixedArrowsProgram ∧
      List.Forall₂ Token.Turned mixedArrows turnedArrows ∧
      mixedArrowsProgram.flow stepLexicon =
        ["INTENT_INPUT", "INTENT_PARSE", "INTENT_ACTION"] ∧
      HasFlow stepLexicon (mixedArrows.filter Token.yieldsArrow)
        ["INTENT_INPUT", "INTENT_PARSE", "INTENT_ACTION"] ∧
      HasFlow stepLexicon turnedArrows ["INTENT_INPUT", "INTENT_PARSE", "INTENT_ACTION"] := by
  have hparse : parseTokens mixedArrows = .ok mixedArrowsProgram := by decide +kernel
  have hflow : mixedArrowsProgram.flow stepLexicon =
      ["INTENT_INPUT", "INTENT_PARSE", "INTENT_ACTION"] := by decide +kernel
  have hend : ∀ word ∈ ["输入", "解析", "行动", "判断"], Token.IsEnd word := by
    have hcheck : ∀ word ∈ ["输入", "解析", "行动", "判断"], word ∉ blockEndWords ∧
        (word ≠ "->" ∧ word ≠ "<-") ∧ Token.colonName? word = none := by decide +kernel
    intro word hword
    obtain ⟨hcloses, hsign, hcolon⟩ := hcheck word hword
    exact ⟨hcloses, hsign, (Token.colonName?_eq_none_iff ⟨word, [], ""⟩).mp hcolon⟩
  have hturned : List.Forall₂ Token.Turned mixedArrows turnedArrows :=
    .cons (.same _) <| .cons
      (@Token.Turned.toLeft "输入" "解析" ">" [] [] (hend _ (by simp)) (hend _ (by simp)) (by simp)) <|
    .cons (.same _) <| .cons
      (@Token.Turned.toRight "判断" "行动" ">" [] [] (hend _ (by simp)) (hend _ (by simp)) (by simp)) <|
    .cons (.same _) .nil
  obtain ⟨-, -, hfilter, hturn⟩ := flow_of_arrows stepLexicon mixedArrows mixedArrowsProgram hparse
  rw [hflow] at hfilter hturn
  exact ⟨hparse, hturned, hflow, hfilter, hturn turnedArrows hturned⟩

end Flowline
