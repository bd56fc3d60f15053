import Mathlib.Data.List.Dedup
import Mathlib.Tactic.Lemma
import Flowline.Lexicon

/-!
What a lexicon knows after a history of loads.

Each load enters a list of words with their intents, also when it fails: `entered` says which, from
the data alone. A lexicon is the table of all these entries in their order, in which the last entry
of a word counts. So the history of loads is told by one list, and loading the same data twice in a
row is loading them once.
-/

namespace Flowline.Lexicon

abbrev Entry := Datum.Key × String

/-! ### The entries of a load -/

/-- The words that a configuration lists. Only a record is a configuration; its words are the items
of a list, the characters of a text or the names of a record. -/
def listed? : Datum → Option (List Datum)
  | .record fields =>
    match fields.lookup "aliases" with
    | none => some []
    | some (.list ds) => some ds
    | some (.text s) => some (s.toList.map fun c => .text c.toString)
    | some (.record names) => some (names.map fun e => .text e.1)
    | some _ => none
  | _ => none

/-- The configuration lists words and all of them can be entered. -/
def isLoadable (config : Datum) : Bool := (listed? config).any (·.all (·.key?.isSome))

/-- The words up to the first that cannot be entered. -/
def enterable (ds : List Datum) : List Datum.Key :=
  (ds.takeWhile (·.key?.isSome)).filterMap Datum.key?

def entriesFor (field : String × Datum) : List Entry :=
  (enterable ((listed? field.2).getD [])).map (·, field.1)

/-- The entries that loading the data makes: those for the intents up to the first whose
configuration fails, which is not left out. -/
def entered : Datum → List Entry
  | .record fields =>
    (fields.takeWhile (isLoadable ·.2) ++ (fields.dropWhile (isLoadable ·.2)).take 1).flatMap
      entriesFor
  | _ => []

def enterList (lex : Lexicon) (es : List Entry) : Lexicon :=
  es.foldl (fun lex e => lex.enter e.1 e.2) lex

lemma enterList_append (lex : Lexicon) (es fs : List Entry) :
    lex.enterList (es ++ fs) = (lex.enterList es).enterList fs :=
  List.foldl_append

lemma enterAll_eq (lex : Lexicon) (intent : String) (ds : List Datum) :
    lex.enterAll intent ds =
      (lex.enterList ((enterable ds).map (·, intent)),
        if ds.all (·.key?.isSome) then none else some .wrongKind) := by
  induction ds generalizing lex with
  | nil => rfl
  | cons d ds ih =>
    cases hd : d.key? with
    | none => simp [enterAll, enterable, enterList, hd]
    | some w => simp [enterAll, enterable, enterList, hd, ih]

lemma elements_aliases (config : Datum) :
    (∃ ds, listed? config = some ds ∧
      config.field "aliases" (.list []) >>= Datum.elements = .ok ds) ∨
    ∃ f, listed? config = none ∧
      config.field "aliases" (.list []) >>= Datum.elements = .error f := by
  cases config with
  | record fields =>
    have hfield : (Datum.record fields).field "aliases" (.list []) >>= Datum.elements =
        ((fields.lookup "aliases").getD (.list [])).elements := rfl
    rw [hfield, listed?]
    cases fields.lookup "aliases" with
    | none => exact .inl ⟨[], rfl, rfl⟩
    | some d =>
      cases d with
      | list ds => exact .inl ⟨_, rfl, rfl⟩
      | text s => exact .inl ⟨_, rfl, rfl⟩
      | record names => exact .inl ⟨_, rfl, rfl⟩
      | _ => exact .inr ⟨_, rfl, rfl⟩
  | _ => exact .inr ⟨_, rfl, rfl⟩

lemma loadFields_eq (fields : Record) :
    ∃ fault, (fault = none ↔ ∀ e ∈ fields, isLoadable e.2 = true) ∧
      ∀ lex : Lexicon,
        lex.loadFields fields = (lex.enterList (entered (.record fields)), fault) := by
  induction fields with
  | nil => exact ⟨none, by simp, fun lex => rfl⟩
  | cons e fields ih =>
    obtain ⟨intent, config⟩ := e
    obtain ⟨ds, hlisted, hwords⟩ | ⟨f, hlisted, hwords⟩ := elements_aliases config
    · have hfor : entriesFor (intent, config) = (enterable ds).map (·, intent) := by
        simp [entriesFor, hlisted]
      by_cases hall : ds.all (·.key?.isSome) = true
      · -- all words can be entered, and loading goes on
        obtain ⟨fault, hnone, hload⟩ := ih
        have hconfig : isLoadable config = true := by simpa [isLoadable, hlisted] using hall
        refine ⟨fault, by simp [hnone, hconfig], fun lex => ?_⟩
        have hentered : entered (.record ((intent, config) :: fields)) =
            entriesFor (intent, config) ++ entered (.record fields) := by
          simp [entered, hconfig]
        rw [loadFields, hwords, hentered, enterList_append, hfor]
        simp only [enterAll_eq, hall, if_true, hload]
      · -- loading stops at a word that cannot be entered
        have hconfig : isLoadable config = false := by
          simpa [isLoadable, hlisted] using hall
        refine ⟨some .wrongKind, by simp [hconfig], fun lex => ?_⟩
        have hentered : entered (.record ((intent, config) :: fields)) =
            entriesFor (intent, config) := by
          simp [entered, hconfig]
        rw [loadFields, hwords, hentered, hfor]
        simp only [enterAll_eq, hall, Bool.false_eq_true, if_false]
    · -- the configuration lists no words
      have hconfig : isLoadable config = false := by simp [isLoadable, hlisted]
      refine ⟨some f, by simp [hconfig], fun lex => ?_⟩
      rw [loadFields, hwords]
      simp [entered, hconfig, entriesFor, hlisted, enterable, enterList]

def IsComplete (data : Datum) : Prop :=
  ∃ fields, data = .record fields ∧ ∀ e ∈ fields, isLoadable e.2 = true

/-- Whatever is known already, a load makes the same entries and ends in the same way. -/
lemma load_eq (data : Datum) :
    ∃ fault, (fault = none ↔ IsComplete data) ∧
      ∀ lex : Lexicon, lex.load data = (lex.enterList (entered data), fault) := by
  cases data with
  | record fields => simpa [IsComplete, load] using loadFields_eq fields
  | _ => exact ⟨some .noOperation, by simp [IsComplete], fun lex => rfl⟩

/-! ### A lexicon as a table -/

def words (lex : Lexicon) : List Datum.Key := lex.entries.map Prod.fst

lemma lookup_cons (e : Entry) (es : List Entry) (w : Datum.Key) :
    (e :: es).lookup w = if w = e.1 then some e.2 else es.lookup w := by
  by_cases h : w = e.1
  · rw [List.lookup_cons, beq_iff_eq.mpr h, if_pos h]
  · rw [List.lookup_cons, beq_eq_false_iff_ne.mpr h, if_neg h]

lemma lookup_eq_none_iff {es : List Entry} {w : Datum.Key} :
    es.lookup w = none ↔ w ∉ es.map Prod.fst := by
  simp only [List.lookup_eq_none_iff, bne_iff_ne, List.mem_map, not_exists, not_and, ne_comm]

lemma lookup_enterIn (w : Datum.Key) (intent : String) (es : List Entry) (v : Datum.Key) :
    (enterIn w intent es).lookup v = if v = w then some intent else es.lookup v := by
  induction es with
  | nil => exact lookup_cons (w, intent) [] v
  | cons e es ih =>
    by_cases he : e.1 = w
    · subst he
      rw [enterIn, if_pos rfl, lookup_cons, lookup_cons]
      split_ifs <;> rfl
    · rw [enterIn, if_neg he, lookup_cons, lookup_cons, ih]
      split_ifs with hve hvw
      · exact absurd (hve.symm.trans hvw) he
      all_goals rfl

lemma keys_enterIn (w : Datum.Key) (intent : String) (es : List Entry) :
    (enterIn w intent es).map Prod.fst =
      if w ∈ es.map Prod.fst then es.map Prod.fst else es.map Prod.fst ++ [w] := by
  induction es with
  | nil => rfl
  | cons e es ih =>
    by_cases he : e.1 = w
    · simp [enterIn, he]
    · rw [enterIn, if_neg he, List.map_cons, ih]
      by_cases hw : w ∈ es.map Prod.fst
      · simp [hw]
      · simp [hw, Ne.symm he]

lemma words_enter (lex : Lexicon) (w : Datum.Key) (intent : String) :
    (lex.enter w intent).words = if w ∈ lex.words then lex.words else lex.words ++ [w] :=
  keys_enterIn w intent lex.entries

lemma get?_enterList (lex : Lexicon) (es : List Entry) (w : Datum.Key) :
    (lex.enterList es).get? w = (es.reverse.lookup w).or (lex.get? w) := by
  induction es generalizing lex with
  | nil => rfl
  | cons e es ih =>
    have henter : (lex.enter e.1 e.2).get? w = ([e].lookup w).or (lex.get? w) := by
      rw [get?, enter, lookup_enterIn, lookup_cons]
      split_ifs <;> rfl
    rw [List.reverse_cons, List.lookup_append, Option.or_assoc, ← henter, ← ih]
    rfl

lemma mem_words_enter {lex : Lexicon} {w v : Datum.Key} {intent : String} :
    v ∈ (lex.enter w intent).words ↔ v = w ∨ v ∈ lex.words := by
  rw [words_enter]
  split_ifs with hw
  · exact ⟨.inr, fun h => h.elim (fun heq => heq ▸ hw) id⟩
  · rw [List.mem_append, List.mem_singleton, or_comm]

lemma mem_words_enterList {lex : Lexicon} {es : List Entry} {w : Datum.Key} :
    w ∈ (lex.enterList es).words ↔ w ∈ es.map Prod.fst ∨ w ∈ lex.words := by
  induction es generalizing lex with
  | nil => simp [enterList]
  | cons e es ih =>
    rw [enterList, List.foldl_cons, ← enterList, ih, mem_words_enter, List.map_cons, List.mem_cons,
      or_left_comm, or_assoc]

def Distinct (lex : Lexicon) : Prop := lex.words.Nodup

lemma Distinct.enter {lex : Lexicon} (h : lex.Distinct) (w : Datum.Key) (intent : String) :
    (lex.enter w intent).Distinct := by
  rw [Distinct, words_enter]
  split_ifs with hw
  · exact h
  · refine List.nodup_append.mpr ⟨h, by simp, ?_⟩
    rintro v hv u hu rfl
    exact hw (List.mem_singleton.mp hu ▸ hv)

lemma Distinct.enterList {lex : Lexicon} (h : lex.Distinct) (es : List Entry) :
    (lex.enterList es).Distinct := by
  induction es generalizing lex with
  | nil => exact h
  | cons e es ih => exact ih (h.enter e.1 e.2)

lemma words_enterList {lex : Lexicon} {es : List Entry} (h : ∀ e ∈ es, e.1 ∈ lex.words) :
    (lex.enterList es).words = lex.words := by
  induction es generalizing lex with
  | nil => rfl
  | cons e es ih =>
    have hsame : (lex.enter e.1 e.2).words = lex.words := by
      rw [words_enter, if_pos (h e (by simp))]
    rw [enterList, List.foldl_cons, ← enterList, ih, hsame]
    intro f hf
    rw [hsame]
    exact h f (List.mem_cons_of_mem e hf)

/-- Without repetition, a lexicon is told by its words and their intents. -/
lemma Distinct.ext {lex lex' : Lexicon} (h : lex.Distinct) (hwords : lex.words = lex'.words)
    (hget : ∀ w, lex.get? w = lex'.get? w) : lex = lex' := by
  obtain ⟨es⟩ := lex
  obtain ⟨fs⟩ := lex'
  simp only [Distinct, words, get?, mk.injEq] at h hwords hget ⊢
  induction es generalizing fs with
  | nil => exact (List.map_eq_nil_iff.mp hwords.symm).symm
  | cons e es ih =>
    obtain ⟨f, fs, rfl⟩ := List.exists_cons_of_ne_nil (l := fs) (by rintro rfl; simp at hwords)
    obtain ⟨hef, htail⟩ := List.cons.inj hwords
    obtain ⟨hnot, hnodup⟩ := List.nodup_cons.mp h
    have hhead : e = f := by
      have := hget e.1
      rw [lookup_cons, lookup_cons, if_pos rfl, if_pos hef] at this
      exact Prod.ext hef (Option.some.inj this)
    subst hhead
    rw [ih hnodup fs htail fun w => ?_]
    by_cases hw : w = e.1
    · -- the first word does not occur again on either side
      rw [hw, lookup_eq_none_iff.mpr hnot, lookup_eq_none_iff.mpr (htail ▸ hnot)]
    · simpa [lookup_cons, hw] using hget w

lemma Distinct.enterList_enterList {lex : Lexicon} (h : lex.Distinct) (es : List Entry) :
    (lex.enterList es).enterList es = lex.enterList es := by
  refine ((h.enterList es).enterList es).ext (words_enterList fun e he => ?_) fun w => ?_
  · exact mem_words_enterList.mpr (.inl (List.mem_map_of_mem he))
  · simp only [get?_enterList, ← Option.or_assoc, Option.or_self]

/-! ### Histories -/

/-- The lexicon after a history of loads, whether they fail or not. -/
def afterLoads (loads : List Datum) : Lexicon := loads.foldl (fun lex data => (lex.load data).1) {}

lemma afterLoads_eq (loads : List Datum) :
    afterLoads loads = enterList {} (loads.flatMap entered) := by
  have hrun (lex : Lexicon) : loads.foldl (fun lex data => (lex.load data).1) lex =
      lex.enterList (loads.flatMap entered) := by
    induction loads generalizing lex with
    | nil => rfl
    | cons data loads ih =>
      obtain ⟨fault, -, hload⟩ := load_eq data
      rw [List.foldl_cons, ih, List.flatMap_cons, enterList_append, hload]
  exact hrun {}

/-- `(w, intent)` is the last entry of `w`. -/
def IsLastEntry (es : List Entry) (w : Datum.Key) (intent : String) : Prop :=
  ∃ before after, es = before ++ (w, intent) :: after ∧ w ∉ after.map Prod.fst

lemma lookup_reverse_eq_some_iff {es : List Entry} {w : Datum.Key} {intent : String} :
    es.reverse.lookup w = some intent ↔ IsLastEntry es w intent := by
  rw [List.lookup_eq_some_iff]
  constructor
  · rintro ⟨after, before, hes, hafter⟩
    refine ⟨before.reverse, after.reverse, by simpa using congrArg List.reverse hes, ?_⟩
    rintro hmem
    obtain ⟨e, he, rfl⟩ := List.mem_map.mp hmem
    simpa using hafter e (by simpa using he)
  · rintro ⟨before, after, rfl, hafter⟩
    refine ⟨after.reverse, before.reverse, by simp, fun e he => ?_⟩
    have hne : w ≠ e.1 := fun heq => hafter (List.mem_map.mpr ⟨e, by simpa using he, heq.symm⟩)
    simpa using hne

lemma resolve_enterList (es : List Entry) (w : String) :
    (enterList {} es).resolve (.text w) = .ok (es.reverse.lookup (.text w)) := by
  have hget := get?_enterList {} es (.text w)
  rw [show get? {} (.text w) = none from rfl, Option.or_none] at hget
  rw [← hget]
  rfl

/-- **The last word counts**: after any loads, failed ones among them, the intent of a word is that
of its last entry, a word is unknown exactly if it was never entered, and each word that was entered
is counted once. A load succeeds exactly if every configuration in the data can be loaded; either
way, loading the same data once more changes nothing. -/
theorem afterLoads_last_entry (loads : List Datum) :
    (∀ w intent, (afterLoads loads).resolve (.text w) = .ok (some intent) ↔
      IsLastEntry (loads.flatMap entered) (.text w) intent) ∧
    (∀ w, (afterLoads loads).resolve (.text w) = .ok none ↔
      .text w ∉ (loads.flatMap entered).map Prod.fst) ∧
    (afterLoads loads).size = ((loads.flatMap entered).map Prod.fst).dedup.length ∧
    ∀ data, (((afterLoads loads).load data).2 = none ↔ IsComplete data) ∧
      ((afterLoads loads).load data).1.load data = (afterLoads loads).load data := by
  have hempty : Distinct {} := List.nodup_nil
  have hdistinct := hempty.enterList (loads.flatMap entered)
  rw [afterLoads_eq]
  refine ⟨fun w intent => ?_, fun w => ?_, ?_, fun data => ?_⟩
  · rw [resolve_enterList, Except.ok.injEq, lookup_reverse_eq_some_iff]
  · rw [resolve_enterList, Except.ok.injEq, lookup_eq_none_iff, List.map_reverse,
      List.mem_reverse]
  · rw [size, ← List.length_map Prod.fst]
    refine List.Perm.length_eq ?_
    refine (List.perm_ext_iff_of_nodup hdistinct (List.nodup_dedup _)).mpr fun w => ?_
    rw [List.mem_dedup, ← words, mem_words_enterList]
    exact or_iff_left (List.not_mem_nil)
  · obtain ⟨fault, hfault, hload⟩ := load_eq data
    simp only [hload, hdistinct.enterList_enterList]
    exact ⟨hfault, trivial⟩

/-- The second configuration is none and ends the first load, whose words stay. -/
example :
    (afterLoads
      [.record [("print", .record [("aliases", .ofWords ["say", "印"])]), ("set", .text "put"),
        ("call", .record [("aliases", .ofWords ["run"])])],
      .record [("show", .record [("aliases", .text "印p")])]]).entries =
    [(.text "say", "print"), (.text "印", "show"), (.text "p", "show")] := by
  decide +kernel

end Flowline.Lexicon
