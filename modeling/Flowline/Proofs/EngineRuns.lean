import Mathlib.Data.List.Dedup
import Mathlib.Data.List.Perm.Subperm
import Mathlib.Tactic.Lemma
import Flowline.Flow.Engine
import Flowline.Proofs.Records

/-!
What a run goes through.

`Leads` follows an engine from node to node without looking back: a node that was executed may be
executed again, and nothing bounds the path. A run is the path of this kind that is cut before its
first repetition. It ends, since every node of it is new and the table of nodes is finite, and it
ends where no intent, an executed intent or an unknown intent comes next.
-/

namespace Flowline

variable {σ : Type}

def Datum.ofIntent : Option String → Datum
  | some intent => .text intent
  | none => .null

/-- An optional intent as the next step; an empty one counts as none. -/
def Next.ofIntent : Option String → Next
  | some intent => if intent = "" then .stop else .go intent
  | none => .stop

lemma Next.ofDatum_text (intent : String) :
    Next.ofDatum (.text intent) = Next.ofIntent (some intent) := by
  by_cases h : intent = "" <;> simp [Next.ofDatum, Next.ofIntent, Datum.truthy, h]

lemma Next.ofDatum_ofIntent (intent : Option String) :
    Next.ofDatum (.ofIntent intent) = Next.ofIntent intent := by
  cases intent with
  | none => rfl
  | some intent => exact Next.ofDatum_text intent

namespace Engine

def intents (e : Engine σ) : List String := e.nodes.map Prod.fst

/-- From the first state, where the first step is due, the nodes of the intents are executed one
after the other and lead to the second state, where the second step is due. -/
inductive Leads (e : Engine σ) : σ → Next → List String → σ → Next → Prop
  | here (s : σ) (next : Next) : Leads e s next [] s next
  | turn {s t u : σ} {intent : String} {node : σ → σ × Option Fault} {d : Datum}
      {is : List String} {next : Next} (found : e.nodes.lookup intent = some node)
      (ran : node s = (t, none)) (named : e.route intent t = .ok d)
      (onward : Leads e t (.ofDatum d) is u next) : Leads e s (.go intent) (intent :: is) u next

/-- How a run ends that has executed the given intents when the given step is due. -/
inductive Concludes (e : Engine σ) (executed : List String) : Next → Ending → Prop
  | missing : Concludes e executed .stop .finished
  | again {intent : String} (h : intent ∈ executed) : Concludes e executed (.go intent) .looped
  | unknown {intent : String} (h : intent ∉ e.intents) :
      Concludes e executed (.go intent) (.failed (.noCapability intent))

variable {e : Engine σ}

lemma lookup_eq_none_iff {intent : String} :
    e.nodes.lookup intent = none ↔ intent ∉ e.intents := by
  simp only [intents, List.lookup_eq_none_iff, List.mem_map, bne_iff_ne, not_exists, not_and]
  exact forall₂_congr fun _ _ => ne_comm

lemma mem_intents_of_lookup {intent : String} {node : σ → σ × Option Fault}
    (h : e.nodes.lookup intent = some node) : intent ∈ e.intents := by
  by_contra hmem
  rw [lookup_eq_none_iff.mpr hmem] at h
  cases h

lemma Leads.subset {s t : σ} {next due : Next} {is : List String}
    (h : e.Leads s next is t due) : is ⊆ e.intents := by
  induction h with
  | here => exact List.nil_subset _
  | turn found _ _ _ ih => exact List.cons_subset.mpr ⟨mem_intents_of_lookup found, ih⟩

lemma Leads.eq_of_nil {s t : σ} {next due : Next} (h : e.Leads s next [] t due) : t = s := by
  generalize hnil : ([] : List String) = is at h
  cases h with
  | here => rfl
  | turn => cases hnil

lemma Leads.ran_of_singleton {s t : σ} {next due : Next} {intent : String}
    (h : e.Leads s next [intent] t due) :
    ∃ node, e.nodes.lookup intent = some node ∧ node s = (t, none) := by
  generalize hone : [intent] = is at h
  cases h with
  | here => cases hone
  | turn served ran named onward =>
    obtain ⟨rfl, rfl⟩ := List.cons.inj hone
    obtain rfl := onward.eq_of_nil
    exact ⟨_, served, ran⟩

lemma Leads.trans {s t u : σ} {next mid due : Next} {is js : List String}
    (h : e.Leads s next is t mid) (h' : e.Leads t mid js u due) :
    e.Leads s next (is ++ js) u due := by
  induction h with
  | here => exact h'
  | turn found ran named _ ih => exact .turn found ran named (ih h')

/-! ### Following a path -/

lemma runFrom_turn {executed : List String} {s t : σ} {intent : String}
    {node : σ → σ × Option Fault} {d : Datum} (hnew : intent ∉ executed)
    (found : e.nodes.lookup intent = some node) (ran : node s = (t, none))
    (named : e.route intent t = .ok d) :
    e.runFrom executed s (.go intent) = e.runFrom (executed ++ [intent]) t (.ofDatum d) := by
  rw [runFrom, dif_neg (by simpa using hnew)]
  split
  · simp_all
  · rename_i node' h
    obtain rfl : node = node' := by simpa [found] using h
    simp only [ran, named]

lemma runFrom_leads {executed is : List String} {s t : σ} {next due : Next}
    (h : e.Leads s next is t due) (hnodup : (executed ++ is).Nodup) :
    e.runFrom executed s next = e.runFrom (executed ++ is) t due := by
  induction h generalizing executed with
  | here => rw [List.append_nil]
  | @turn s t u intent node d is due found ran named _ ih =>
    have hnew : intent ∉ executed := fun hmem =>
      (List.nodup_append.mp hnodup).2.2 intent hmem intent List.mem_cons_self rfl
    rw [List.append_cons] at hnodup ⊢
    rw [runFrom_turn hnew found ran named, ih hnodup]

lemma runFrom_concludes {executed : List String} {next : Next} {ending : Ending}
    (hknown : executed ⊆ e.intents) (h : e.Concludes executed next ending) (s : σ) :
    e.runFrom executed s next = ⟨s, executed, ending⟩ := by
  cases h with
  | missing => rw [runFrom]
  | again h => rw [runFrom, dif_pos (by simpa using h)]
  | @unknown intent h =>
    have hnew : intent ∉ executed := fun hmem => h (hknown hmem)
    rw [runFrom, dif_neg (by simpa using hnew)]
    split
    · rfl
    · rename_i node found
      exact absurd (mem_intents_of_lookup found) h

/-- A path without repetition at whose end a run ends is the run. -/
lemma run_of_leads {first : Datum} {is : List String} {s t : σ} {due : Next} {ending : Ending}
    (h : e.Leads s (.ofDatum first) is t due) (hnodup : is.Nodup)
    (hends : e.Concludes is due ending) (rest : List Datum) :
    e.run (first :: rest) s = ⟨t, is, ending⟩ := by
  rw [run, runFrom_leads h (by simpa using hnodup), List.nil_append]
  exact runFrom_concludes h.subset hends t

/-! ### Every run ends -/

/-- The nodes return, and the router names an intent or none. -/
structure Returns (e : Engine σ) : Prop where
  node : ∀ intent node, e.nodes.lookup intent = some node → ∀ s, (node s).2 = none
  route : ∀ intent s, ∃ next, e.route intent s = .ok (.ofIntent next)

/-- Going on from distinct intents, there is a way to go through further new ones to an end. -/
lemma Returns.exists_leads (he : e.Returns) (executed : List String) (hnodup : executed.Nodup)
    (s : σ) (first : Option String) :
    ∃ is t due ending, e.Leads s (.ofIntent first) is t due ∧ (executed ++ is).Nodup ∧
      e.Concludes (executed ++ is) due ending := by
  -- every new intent leaves fewer nodes that were not executed
  induction hm : e.remaining executed using Nat.strongRecOn
    generalizing executed s first with
  | _ m ih =>
    cases hnext : Next.ofIntent first with
    | stop => exact ⟨[], s, .stop, .finished, .here s _, by simpa using hnodup, .missing⟩
    | fail f =>
      cases first with
      | none => cases hnext
      | some intent =>
        simp only [Next.ofIntent] at hnext
        split at hnext <;> cases hnext
    | go intent =>
      by_cases hmem : intent ∈ executed
      · exact ⟨[], s, .go intent, .looped, .here s _, by simpa using hnodup,
          .again (by simpa using hmem)⟩
      cases found : e.nodes.lookup intent with
      | none =>
        exact ⟨[], s, .go intent, .failed (.noCapability intent), .here s _,
          by simpa using hnodup, .unknown (lookup_eq_none_iff.mp found)⟩
      | some node =>
        obtain ⟨t, ran⟩ : ∃ t, node s = (t, none) :=
          ⟨(node s).1, Prod.ext rfl (he.node intent node found s)⟩
        obtain ⟨second, named⟩ := he.route intent t
        have hnodup' : (executed ++ [intent]).Nodup := by
          rw [← List.concat_eq_append]
          exact hnodup.concat hmem
        have hless : e.remaining (executed ++ [intent]) < m :=
          hm ▸ remaining_lt found (by simpa using hmem)
        obtain ⟨is, u, due, ending, hleads, hall, hends⟩ :=
          ih _ hless (executed ++ [intent]) hnodup' t second rfl
        rw [← List.append_cons] at hall hends
        rw [← Next.ofDatum_ofIntent] at hleads
        exact ⟨intent :: is, u, due, ending, .turn found ran named hleads, hall, hends⟩

lemma executed_runFrom (e : Engine σ) (executed : List String) (s : σ) (next : Next) :
    executed <+: (e.runFrom executed s next).executed := by
  fun_induction runFrom e executed s next with
  | case1 => exact List.prefix_refl _
  | case2 => exact List.prefix_refl _
  | case3 => exact List.prefix_refl _
  | case4 => exact List.prefix_refl _
  | case5 => exact List.prefix_append _ _
  | case6 => exact List.prefix_append _ _
  | case7 => exact (List.prefix_append _ _).trans ‹_›

lemma Concludes.unique {executed : List String} {next : Next} {a b : Ending}
    (hknown : executed ⊆ e.intents) (ha : e.Concludes executed next a)
    (hb : e.Concludes executed next b) : a = b := by
  cases ha <;> cases hb <;> first | rfl | exact absurd (hknown ‹_›) ‹_›

/-- **A run ends and repeats nothing**: the first intent alone settles it. It follows the engine
from there through distinct intents that have nodes, as far as that is possible, and it ends in one
way: no intent is named, an executed one is named, or one that has no node. In all three the state
is the one that the executed nodes have left. -/
theorem run_ends (e : Engine σ) (he : e.Returns) (first : Option String) (s : σ) :
    ∃ r due, (∀ rest, e.run (.ofIntent first :: rest) s = r) ∧
      e.Leads s (.ofIntent first) r.executed r.state due ∧
      (∀ is t next, e.Leads s (.ofIntent first) is t next → is.Nodup → is <+: r.executed) ∧
      r.executed.Nodup ∧ r.executed ⊆ e.intents ∧
      r.executed.length ≤ e.intents.dedup.length ∧
      ∀ ending, e.Concludes r.executed due ending ↔ ending = r.ending := by
  obtain ⟨is, t, due, ending, hleads, hnodup, hends⟩ :=
    he.exists_leads [] List.nodup_nil s first
  rw [List.nil_append] at hnodup hends
  have hrun (rest : List Datum) : e.run (.ofIntent first :: rest) s = ⟨t, is, ending⟩ :=
    run_of_leads (by rwa [Next.ofDatum_ofIntent]) hnodup hends rest
  refine ⟨⟨t, is, ending⟩, due, hrun, hleads, fun js u next hjs hdistinct => ?_, hnodup,
    hleads.subset, ?_, fun other => ⟨fun h => h.unique hleads.subset hends, fun h => h ▸ hends⟩⟩
  · have hfollow : e.runFrom [] s (.ofIntent first) = e.runFrom js u next :=
      runFrom_leads hjs (by simpa using hdistinct)
    have hwhole := hrun []
    rw [run, Next.ofDatum_ofIntent, hfollow] at hwhole
    simpa [hwhole] using e.executed_runFrom js u next
  · have hknown : is ⊆ e.intents.dedup := fun i hi => List.mem_dedup.mpr (hleads.subset hi)
    exact (List.subperm_of_subset hnodup hknown).length_le

/-- Two nodes that write down that they were executed, and a router that names the one that did not
write last. -/
def relay : Engine (List String) where
  nodes := [("INTENT_INPUT", fun log => (log ++ ["input"], none)),
    ("INTENT_ACTION", fun log => (log ++ ["action"], none))]
  route _ log := .ok (.ofIntent (some
    (if log.getLast? = some "input" then "INTENT_ACTION" else "INTENT_INPUT")))

lemma relay_returns : relay.Returns where
  node intent node h s := by
    simp only [relay, Record.lookup_cons, List.lookup_nil] at h
    split at h
    · cases h
      rfl
    · split at h <;> cases h
      rfl
  route intent s := ⟨_, rfl⟩

lemma leads_relay :
    relay.Leads [] (.go "INTENT_INPUT") ["INTENT_INPUT", "INTENT_ACTION"] ["input", "action"]
      (.go "INTENT_INPUT") := by
  refine .turn (t := ["input"]) (d := .text "INTENT_ACTION") rfl rfl rfl ?_
  exact .turn (t := ["input", "action"]) (d := .text "INTENT_INPUT") rfl rfl rfl (.here _ _)

lemma run_relay (rest : List Datum) : relay.run (.text "INTENT_INPUT" :: rest) [] =
    ⟨["input", "action"], ["INTENT_INPUT", "INTENT_ACTION"], .looped⟩ :=
  run_of_leads leads_relay (by decide) (.again (by decide)) rest

/-- The run through both nodes stops when the first is named again. -/
theorem relay_ends :
    relay.Returns ∧ ∃ due,
      relay.Leads [] (.go "INTENT_INPUT") ["INTENT_INPUT", "INTENT_ACTION"] ["input", "action"]
        due ∧
      (∀ is t next, relay.Leads [] (.go "INTENT_INPUT") is t next → is.Nodup →
        is <+: ["INTENT_INPUT", "INTENT_ACTION"]) ∧
      ∀ ending, relay.Concludes ["INTENT_INPUT", "INTENT_ACTION"] due ending ↔
        ending = .looped := by
  obtain ⟨r, due, hrun, hleads, hlongest, -, -, -, hends⟩ :=
    relay.run_ends relay_returns (some "INTENT_INPUT") []
  obtain rfl := (hrun []).symm.trans (run_relay [])
  exact ⟨relay_returns, due, hleads, hlongest, hends⟩

end Engine

end Flowline
