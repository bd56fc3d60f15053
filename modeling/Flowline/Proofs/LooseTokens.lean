import Flowline.Loose.Parse
import Flowline.Proofs.Grammar

/-!
Tokens that come as data are read as the tokens they stand for.
-/

namespace Flowline

def Token.toDatum (t : Token) : Datum :=
  .record [("raw_action", .text t.action), ("raw_args", .ofWords t.args),
    ("line_state", .text t.state)]

namespace Loose

lemma parts_ofToken (t : Token) :
    Parts.ofDatum t.toDatum = .ok ⟨.text t.action, .ofWords t.args, .text t.state⟩ := rfl

lemma occurs_ofWords (sign : String) (args : List String) :
    occurs sign (.ofWords args) = .ok (decide (sign ∈ args)) := by
  simp [occurs, Datum.ofWords, Datum.text?, List.any_eq]

lemma following_ofWords (sign : String) (args : List String) :
    following sign (.ofWords args) = .ok ((Token.wordAfter sign args).map Datum.text) := by
  have hdrop : ((args.map Datum.text).dropWhile fun d => d.text? != some sign) =
      (args.dropWhile (· != sign)).map Datum.text := by
    rw [List.dropWhile_map]
    rfl
  simp only [following, Datum.ofWords, Token.wordAfter, hdrop]
  rw [← List.map_tail, List.head?_map]

lemma node_ofToken (t : Token) :
    node ⟨.text t.action, .ofWords t.args, .text t.state⟩ =
      match t.statement with
      | .ok s => .ok (s.toDatum, t.endsSegment)
      | .error e => .error (.parse e) := by
  unfold node Token.statement
  simp only [occurs_ofWords, following_ofWords, Datum.key?, Datum.text?, Option.isNone_some,
    Bool.false_eq_true, if_false, Option.any_some, Direction.sign]
  by_cases hend : isBlockEnd t.action = true
  · simp [hend, Statement.toDatum, Token.endsSegment, pure, Except.pure]
  by_cases hstate : isLineState t.state = true
  swap
  · simp [hend, hstate, Datum.display]
  simp only [hend, hstate, bind, Except.bind, pure, Except.pure]
  rcases hcolon : Token.colonName? t.action with _ | name
  swap
  · have hlast : t.endsSegment = false := by simp [Token.endsSegment, hcolon]
    rcases ha : Token.colonAction? name with _ | a <;> by_cases hr : "->" ∈ t.args <;>
      simp [hr, ha, hlast, Statement.toDatum, lineNode, Datum.ofWords]
  have hlast : t.endsSegment = decide (t.state = ">") := by
    simp [Token.endsSegment, hend, hcolon]
    rfl
  by_cases hright : "->" ∈ t.args
  · rw [Token.arrow?_of_right hright]
    rcases hw : Token.wordAfter "->" t.args with _ | word <;>
      simp [hright, hw, hlast, Statement.toDatum, Direction.sign]
  by_cases hleft : "<-" ∈ t.args
  · rw [Token.arrow?_of_left hright hleft]
    rcases hw : Token.wordAfter "<-" t.args with _ | word <;>
      simp [hright, hleft, hw, hlast, Statement.toDatum, Direction.sign]
  rw [Token.arrow?_of_none hright hleft]
  rcases ha : Action.ofWord? t.action with _ | a <;>
    simp [hright, hleft, hlast, Statement.toDatum, lineNode]

lemma nodes_ofTokens (ts : List Token) :
    ((ts.map Token.toDatum).mapM fun d => do node (← Parts.ofDatum d)) =
      match ts.mapM Token.statement with
      | .ok ss => .ok ((ss.map Statement.toDatum).zip (ts.map Token.endsSegment))
      | .error e => .error (.parse e) := by
  induction ts with
  | nil => rfl
  | cons t ts ih =>
    rw [List.map_cons, List.mapM_cons, List.mapM_cons, ih, parts_ofToken]
    simp only [bind, Except.bind, node_ofToken]
    rcases t.statement with e | s
    · rfl
    · rcases ts.mapM Token.statement with e | ss <;> rfl

/-- **Loose tokens**: the data of tokens give the data of their program, or the refusal of the first
token that is no statement. -/
theorem parseTokens_toDatum (ts : List Token) :
    parseTokens (.list (ts.map Token.toDatum)) =
      match Flowline.parseTokens ts with
      | .ok p => .ok (p.toDatum Statement.toDatum)
      | .error e => .error (.parse e) := by
  have hnodes := nodes_ofTokens ts
  simp only [bind, Except.bind] at hnodes
  unfold parseTokens Flowline.parseTokens
  simp only [Datum.elements, bind, Except.bind, hnodes]
  rcases ts.mapM Token.statement with e | ss
  · rfl
  · have hmap := Program.toDatum_map Statement.toDatum id
      (.ofFlagged (ss.zip (ts.map Token.endsSegment)))
    rw [Program.map_ofFlagged] at hmap
    simp only [pure, Except.pure, List.zip_map_left]
    exact congrArg Except.ok hmap

end Loose

end Flowline
