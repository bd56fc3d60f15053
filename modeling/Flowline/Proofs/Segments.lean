import Mathlib.Tactic.Lemma
import Flowline.Program

/-!
Segments: what cutting a list of leaves into a program keeps, and what it cannot produce.
-/

namespace Flowline

variable {α β : Type}

lemma flatten_cutAfter (xs : List (α × Bool)) : (cutAfter xs).flatten = xs.map Prod.fst := by
  fun_induction cutAfter xs with
  | case1 => rfl
  | case2 a rest ih => simp [ih]
  | case3 a rest hrest ih =>
    rw [hrest] at ih
    simpa using ih
  | case4 a rest g gs hrest ih =>
    rw [hrest] at ih
    simpa using ih

lemma cutAfter_map (f : α → β) (xs : List (α × Bool)) :
    cutAfter (xs.map fun x => (f x.1, x.2)) = (cutAfter xs).map (·.map f) := by
  fun_induction cutAfter xs with
  | case1 => rfl
  | case2 a rest ih => simp [cutAfter, ih]
  | case3 a rest hrest ih => simp [cutAfter, ih, hrest]
  | case4 a rest g gs hrest ih => simp [cutAfter, ih, hrest]

lemma ne_nil_of_mem_cutAfter {xs : List (α × Bool)} {g : List α} (h : g ∈ cutAfter xs) :
    g ≠ [] := by
  fun_induction cutAfter xs with
  | case1 => simp at h
  | case2 a rest ih =>
    rcases List.mem_cons.mp h with rfl | h'
    · simp
    · exact ih h'
  | case3 a rest hrest ih =>
    rw [List.mem_singleton] at h
    simp [h]
  | case4 a rest k gs hrest ih =>
    rcases List.mem_cons.mp h with rfl | h'
    · simp
    · exact ih (by rw [hrest]; exact List.mem_cons_of_mem k h')

namespace Program

lemma statements_ofFlagged (xs : List (α × Bool)) :
    (ofFlagged xs).statements = xs.map Prod.fst := by
  rw [← flatten_cutAfter]
  unfold ofFlagged statements
  rcases cutAfter xs with _ | ⟨g, gs⟩ <;> simp

/-- There is a flow exactly if there is a leaf. -/
lemma length_flows_ofFlagged (xs : List (α × Bool)) :
    (ofFlagged xs).flows.length = if xs = [] then 0 else 1 := by
  have hflat := flatten_cutAfter xs
  unfold ofFlagged
  rcases hcut : cutAfter xs with _ | ⟨g, gs⟩
  · rw [hcut] at hflat
    have : xs = [] := by simpa using hflat.symm
    simp [this]
  · have : xs ≠ [] := by
      rintro rfl
      simp [cutAfter] at hcut
    simp [this]

lemma segment_ne_nil {xs : List (α × Bool)} {segments : List (List α)} {segment : List α}
    (hs : segments ∈ (ofFlagged xs).flows) (h : segment ∈ segments) : segment ≠ [] := by
  refine ne_nil_of_mem_cutAfter (?_ : segment ∈ cutAfter xs)
  unfold ofFlagged at hs
  rcases hcut : cutAfter xs with _ | ⟨g, gs⟩
  · simp [hcut] at hs
  · rw [hcut] at hs
    rw [List.mem_singleton] at hs
    rw [← hs]
    exact h

def map (f : α → β) (p : Program α) : Program β := ⟨p.flows.map (·.map (·.map f))⟩

lemma map_ofFlagged (f : α → β) (xs : List (α × Bool)) :
    (ofFlagged xs).map f = ofFlagged (xs.map fun x => (f x.1, x.2)) := by
  unfold ofFlagged
  rw [cutAfter_map]
  rcases cutAfter xs with _ | ⟨g, gs⟩ <;> rfl

lemma toDatum_map (f : α → β) (leaf : β → Datum) (p : Program α) :
    (p.map f).toDatum leaf = p.toDatum fun a => leaf (f a) := by
  simp [toDatum, map, Function.comp_def]

end Program

end Flowline
