import Mathlib.Tactic.Lemma
import Flowline.Datum

/-!
Records as tables.

Putting a field settles what stands under its name and nothing else, and putting what is there
already changes nothing. Names may be repeated in a list of fields; a record that is built by
putting has each name once, and such a record can be put into itself.
-/

namespace Flowline.Record

section

variable {α : Type} (r : List (String × α)) (field name : String) (v : α)

lemma lookup_cons :
    ((field, v) :: r).lookup name = if name = field then some v else r.lookup name := by
  by_cases h : name = field
  · simp [h]
  · rw [List.lookup_cons, beq_eq_false_iff_ne.mpr h, if_neg h]

lemma lookup_put :
    (put r field v).lookup name = if name = field then some v else r.lookup name := by
  induction r with
  | nil => exact lookup_cons [] field name v
  | cons e r ih =>
    obtain ⟨k, x⟩ := e
    by_cases hk : k = field
    · subst hk
      rw [put, if_pos (by simp), lookup_cons, lookup_cons]
      by_cases h : name = k <;> simp [h]
    · rw [put, if_neg (by simpa using hk), lookup_cons, lookup_cons, ih]
      by_cases h : name = k
      · simp [h, hk]
      · simp [h]

lemma put_of_lookup {r : List (String × α)} {field : String} {v : α}
    (h : r.lookup field = some v) : put r field v = r := by
  induction r with
  | nil => simp at h
  | cons e r ih =>
    obtain ⟨k, x⟩ := e
    by_cases hk : k = field
    · subst hk
      simp_all [put]
    · rw [lookup_cons, if_neg (Ne.symm hk)] at h
      simp [put, hk, ih h]

lemma mem_names_put :
    name ∈ (put r field v).map Prod.fst ↔ name = field ∨ name ∈ r.map Prod.fst := by
  induction r with
  | nil => simp [put]
  | cons e r ih =>
    obtain ⟨k, x⟩ := e
    by_cases hk : k = field
    · subst hk
      simp [put]
    · simp only [put, beq_iff_eq, hk, if_false, List.map_cons, List.mem_cons, ih]
      exact or_left_comm

end

def Distinct (r : Record) : Prop := (r.map Prod.fst).Nodup

lemma getD_put (r : Record) (field name : String) (v stand : Datum) :
    getD (put r field v) name stand = if name = field then v else getD r name stand := by
  simp only [getD, lookup_put]
  by_cases h : name = field <;> simp [h]

lemma get?_put (r : Record) (field : String) (v : Datum) :
    get? (put r field v) field = some v := by
  rw [get?, lookup_put, if_pos rfl]

lemma put_put (r : Record) (field : String) (v : Datum) :
    put (put r field v) field v = put r field v :=
  put_of_lookup (get?_put r field v)

variable {r : Record}

lemma Distinct.put (h : Distinct r) (field : String) (v : Datum) : Distinct (put r field v) := by
  unfold Distinct at h ⊢
  induction r with
  | nil => simp [Record.put]
  | cons e r ih =>
    obtain ⟨k, x⟩ := e
    obtain ⟨hk, hr⟩ := List.nodup_cons.mp h
    by_cases hkf : k = field
    · subst hkf
      simpa [Record.put] using h
    · simp only [Record.put, beq_iff_eq, hkf, if_false, List.map_cons, List.nodup_cons]
      refine ⟨fun hmem => ?_, ih hr⟩
      rcases (mem_names_put r field k v).mp hmem with heq | hmem
      · exact hkf heq
      · exact hk hmem

lemma Distinct.lookup_of_mem (h : Distinct r) {e : String × Datum} (he : e ∈ r) :
    r.lookup e.1 = some e.2 := by
  unfold Distinct at h
  induction r with
  | nil => simp at he
  | cons f r ih =>
    obtain ⟨hf, hr⟩ := List.nodup_cons.mp h
    rcases List.mem_cons.mp he with rfl | he
    · rw [lookup_cons, if_pos rfl]
    · have hne : e.1 ≠ f.1 := fun heq => hf (heq ▸ List.mem_map_of_mem he)
      rw [lookup_cons, if_neg hne]
      exact ih hr he

/-- Fields that stand there already can be put again. -/
lemma update_of_lookup {more : Record} (h : ∀ e ∈ more, r.lookup e.1 = some e.2) :
    update r more = r := by
  induction more with
  | nil => rfl
  | cons e more ih =>
    have hput : put r e.1 e.2 = r := put_of_lookup (h e List.mem_cons_self)
    rw [update, List.foldl_cons, hput]
    exact ih fun f hf => h f (List.mem_cons_of_mem e hf)

lemma Distinct.update_self (h : Distinct r) : update r r = r :=
  update_of_lookup fun _ he => h.lookup_of_mem he

/-- After fields were entered each is found there, and all others as before. -/
lemma lookup_update {fields : Record} (h : Distinct fields) (name : String) :
    (update r fields).lookup name = (fields.lookup name).or (r.lookup name) := by
  unfold Distinct at h
  induction fields generalizing r with
  | nil => rfl
  | cons e fields ih =>
    obtain ⟨field, v⟩ := e
    obtain ⟨hfield, hrest⟩ := List.nodup_cons.mp h
    have hput : update r ((field, v) :: fields) = update (put r field v) fields := rfl
    rw [hput, ih hrest, lookup_put, lookup_cons]
    by_cases hname : name = field
    · -- the later fields have other names
      have hnone : fields.lookup name = none := by
        rw [List.lookup_eq_none_iff]
        intro f hf
        have hmem : f.1 ∈ fields.map Prod.fst := List.mem_map_of_mem hf
        have hne : name ≠ f.1 := fun heq => hfield (hname.symm.trans heq ▸ hmem)
        simpa using hne
      rw [if_pos hname, if_pos hname, hnone, Option.none_or, Option.some_or]
    · rw [if_neg hname, if_neg hname]

lemma update_update {fields : Record} (h : Distinct fields) :
    update (update r fields) fields = update r fields := by
  refine update_of_lookup fun e he => ?_
  rw [lookup_update h, h.lookup_of_mem he, Option.some_or]

end Flowline.Record
