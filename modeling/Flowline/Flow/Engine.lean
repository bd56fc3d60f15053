import Flowline.Fault

/-!
# Running a flow

An engine has nodes, each for one intent, and a router that names the next intent after a node has
run. It starts with an intent and goes where the router says. No node runs twice: coming back to an
intent ends the run, so a run makes at most as many steps as there are nodes.
-/

namespace Flowline

inductive Ending
  /-- The router named no intent. -/
  | finished
  /-- The router named an intent that was executed before. -/
  | looped
  | failed (fault : Fault)

def Ending.notice? : Ending → Option String
  | looped => some "Loop detected. Stopping."
  | finished | failed _ => none

def Ending.fault? : Ending → Option Fault
  | failed f => some f
  | finished | looped => none

inductive Next
  | stop
  | go (intent : String)
  | fail (fault : Fault)

/-- The next step that a datum names. Only a text can be an intent. -/
def Next.ofDatum (d : Datum) : Next :=
  if !d.truthy then .stop
  else
    match d with
    | .text intent => .go intent
    | .list _ | .record _ => .fail .wrongKind
    | d => .fail (.noCapability d.display)

/-- Nodes that change a state, and a router that looks at it. -/
structure Engine (σ : Type) where
  nodes : List (String × (σ → σ × Option Fault))
  route : String → σ → Except Fault Datum

/-- A run: the state it leaves, the intents it executed in order, and how it ended. -/
structure Run (σ : Type) where
  state : σ
  executed : List String
  ending : Ending

namespace Engine

variable {σ : Type}

/-- How many nodes have not been executed yet. -/
def remaining (e : Engine σ) (executed : List String) : Nat :=
  (e.nodes.filter fun n => !executed.contains n.1).length

theorem remaining_lt {e : Engine σ} {executed : List String} {intent : String}
    {node : σ → σ × Option Fault} (h : e.nodes.lookup intent = some node)
    (hn : executed.contains intent = false) :
    e.remaining (executed ++ [intent]) < e.remaining executed := by
  unfold remaining
  generalize e.nodes = ns at h
  induction ns with
  | nil => simp at h
  | cons n ns ih =>
    have hle : (ns.filter fun n => !(executed ++ [intent]).contains n.1).length ≤
        (ns.filter fun n => !executed.contains n.1).length := by
      simp only [← List.countP_eq_length_filter]
      refine List.countP_mono_left fun x _ hx => ?_
      simp only [List.contains_eq_mem, List.mem_append, List.mem_singleton, Bool.not_eq_true',
        decide_eq_false_iff_not, not_or] at hx ⊢
      exact hx.1
    by_cases hk : intent = n.1
    · subst hk
      have h1 : (!(executed ++ [n.1]).contains n.1) = false := by simp
      have h2 : (!executed.contains n.1) = true := by rw [hn]; rfl
      rw [List.filter_cons, List.filter_cons, if_neg (by simp), if_pos h2]
      simp only [List.length_cons]
      omega
    · have hl : ns.lookup intent = some node := by
        have hb : (intent == n.1) = false := by simpa using hk
        rw [List.lookup_cons, hb] at h
        exact h
      have := ih hl
      by_cases hc : n.1 ∈ executed
      · simpa [List.filter_cons, hc] using this
      · simpa [List.filter_cons, hc, Ne.symm hk] using this

/-- Goes on from a state after the given intents were executed. -/
def runFrom (e : Engine σ) (executed : List String) (s : σ) (next : Next) : Run σ :=
  match next with
  | .stop => ⟨s, executed, .finished⟩
  | .fail f => ⟨s, executed, .failed f⟩
  | .go intent =>
    if _hn : executed.contains intent then ⟨s, executed, .looped⟩
    else
      match _h : e.nodes.lookup intent with
      | none => ⟨s, executed, .failed (.noCapability intent)⟩
      | some node =>
        match node s with
        | (t, some f) => ⟨t, executed ++ [intent], .failed f⟩
        | (t, none) =>
          match e.route intent t with
          | .error f => ⟨t, executed ++ [intent], .failed f⟩
          | .ok d => e.runFrom (executed ++ [intent]) t (.ofDatum d)
termination_by e.remaining executed
decreasing_by exact remaining_lt _h (by simpa using _hn)

/-- Runs a flow from its first intent; the others do not matter. -/
def run (e : Engine σ) (flow : List Datum) (s : σ) : Run σ :=
  match flow with
  | [] => ⟨s, [], .failed .outOfRange⟩
  | first :: _ => e.runFrom [] s (.ofDatum first)

end Engine

end Flowline
