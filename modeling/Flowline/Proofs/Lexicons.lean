import Mathlib.Tactic.Lemma
import Flowline.Lexicon.Stock

/-!
Loading lexicons.

A lexicon that lists texts under its intents is always loaded to its end, and the paths that the
command line loads hold such lexicons, in every edition and with either reader.
-/

namespace Flowline.Lexicon

lemma enterAll_texts (lex : Lexicon) (intent : String) (ws : List String) :
    (lex.enterAll intent (ws.map .text)).2 = none := by
  induction ws generalizing lex with
  | nil => rfl
  | cons w ws ih => exact ih _

lemma loadFields_dataOf (lex : Lexicon) (entries : List (String × List String)) :
    (lex.loadFields (entries.map fun e => (e.1, .record [("aliases", .ofWords e.2)]))).2 =
      none := by
  induction entries generalizing lex with
  | nil => rfl
  | cons e entries ih =>
    have helements : (Datum.record [("aliases", .ofWords e.2)]).field "aliases" (.list []) >>=
        Datum.elements = .ok (e.2.map .text) := rfl
    have hwords := lex.enterAll_texts e.1 e.2
    rw [List.map_cons, loadFields, helements]
    rcases h : lex.enterAll e.1 (e.2.map .text) with ⟨lex', fault⟩
    rw [h] at hwords
    obtain rfl : fault = none := hwords
    simp only [h]
    exact ih lex'

lemma contentAt_startPaths (edition : Edition) (hasReader : Bool) :
    ∀ path ∈ startPaths, ∃ entries, contentAt edition hasReader path = .ok (dataOf entries) := by
  simp only [startPaths, List.mem_cons, List.not_mem_nil, or_false]
  rintro path (rfl | rfl | rfl) <;> cases edition <;> cases hasReader <;> exact ⟨_, rfl⟩

lemma loadPaths_of_contentAt {edition : Edition} {hasReader : Bool} {paths : List String}
    (h : ∀ path ∈ paths, ∃ entries, contentAt edition hasReader path = .ok (dataOf entries))
    (lex : Lexicon) : ∃ lex', lex.loadPaths edition hasReader paths = (lex', none) := by
  induction paths generalizing lex with
  | nil => exact ⟨lex, rfl⟩
  | cons path paths ih =>
    obtain ⟨entries, hentries⟩ := h path (by simp)
    have hload : (lex.loadFrom edition hasReader path).2 = none := by
      simp only [loadFrom, hentries]
      exact lex.loadFields_dataOf entries
    rcases hfrom : lex.loadFrom edition hasReader path with ⟨lex', fault⟩
    rw [hfrom] at hload
    obtain rfl : fault = none := hload
    simp only [loadPaths, hfrom]
    exact ih (fun p hp => h p (List.mem_cons_of_mem path hp)) lex'

/-- The lexicons of the command line can always be loaded. -/
lemma loadPaths_startPaths (lex : Lexicon) (edition : Edition) (hasReader : Bool) :
    ∃ lex', lex.loadPaths edition hasReader startPaths = (lex', none) :=
  loadPaths_of_contentAt (contentAt_startPaths edition hasReader) lex

end Flowline.Lexicon
