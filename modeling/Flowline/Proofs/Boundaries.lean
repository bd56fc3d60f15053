import Flowline.Proofs.Grammar

/-!
Where segments end.

A mark `>` ends the segment of a line or an arrow. It does not end the segment of a block end, nor
of a line whose first word carries the colon: these are done with before the mark is looked at.
-/

namespace Flowline

/-- The leaf in place `i`, counted through all segments, is the last of its segment. -/
def EndsAt {α : Type} (segments : List (List α)) (i : Nat) : Prop :=
  ∃ before segment after, segments = before ++ segment :: after ∧ segment ≠ [] ∧
    i + 1 = before.flatten.length + segment.length

section

variable {α : Type}

lemma not_endsAt_nil (i : Nat) : ¬ EndsAt ([] : List (List α)) i := by
  rintro ⟨before, segment, after, h, -⟩
  simp at h

lemma endsAt_cons_iff {g : List α} {gs : List (List α)} {i : Nat} :
    EndsAt (g :: gs) i ↔ (g ≠ [] ∧ i + 1 = g.length) ∨ ∃ j, i = g.length + j ∧ EndsAt gs j := by
  constructor
  · rintro ⟨before, segment, after, hsplit, hne, hi⟩
    rcases before with _ | ⟨b, before⟩
    · obtain ⟨rfl, rfl⟩ : g = segment ∧ gs = after := by simpa using hsplit
      left
      exact ⟨hne, by simpa using hi⟩
    · obtain ⟨rfl, rfl⟩ : g = b ∧ gs = before ++ segment :: after := by simpa using hsplit
      have hpos := List.length_pos_iff.mpr hne
      simp only [List.flatten_cons, List.length_append] at hi
      right
      exact ⟨i - g.length, by omega, before, segment, after, rfl, hne, by omega⟩
  · rintro (⟨hne, hi⟩ | ⟨j, rfl, before, segment, after, rfl, hne, hj⟩)
    · exact ⟨[], g, gs, rfl, hne, by simpa using hi⟩
    · refine ⟨g :: before, segment, after, rfl, hne, ?_⟩
      simp only [List.flatten_cons, List.length_append]
      omega

/-- A leaf put before the first segment moves every end by one. -/
lemma endsAt_push_succ {a : α} {g : List α} {gs : List (List α)} (hg : g ≠ []) {i : Nat} :
    EndsAt ((a :: g) :: gs) (i + 1) ↔ EndsAt (g :: gs) i := by
  simp only [endsAt_cons_iff, List.length_cons, hg, ne_eq, reduceCtorEq, not_false_eq_true,
    true_and]
  constructor
  · rintro (h | ⟨j, h, hj⟩)
    · exact .inl (by omega)
    · exact .inr ⟨j, by omega, hj⟩
  · rintro (h | ⟨j, h, hj⟩)
    · exact .inl (by omega)
    · exact .inr ⟨j, by omega, hj⟩

lemma endsAt_singleton_succ {a : α} {gs : List (List α)} {i : Nat} :
    EndsAt ([a] :: gs) (i + 1) ↔ EndsAt gs i := by
  rw [endsAt_cons_iff, List.length_singleton]
  constructor
  · rintro (⟨-, h⟩ | ⟨j, h, hj⟩)
    · omega
    · obtain rfl : i = j := by omega
      exact hj
  · intro h
    exact .inr ⟨i, by omega, h⟩

lemma not_endsAt_zero {a : α} {g : List α} {gs : List (List α)} (hg : g ≠ []) :
    ¬ EndsAt ((a :: g) :: gs) 0 := by
  have hpos := List.length_pos_iff.mpr hg
  rw [endsAt_cons_iff, List.length_cons]
  rintro (⟨-, h⟩ | ⟨j, h, -⟩) <;> omega

/-- Segments end after the flagged leaves and after the last leaf, nowhere else. -/
lemma endsAt_cutAfter (xs : List (α × Bool)) {i : Nat} {x : α × Bool} (hx : xs[i]? = some x) :
    EndsAt (cutAfter xs) i ↔ x.2 = true ∨ i + 1 = xs.length := by
  fun_induction cutAfter xs generalizing i with
  | case1 => simp at hx
  | case2 a rest ih =>
    rcases i with _ | i
    · obtain rfl : (a, true) = x := by simpa using hx
      simp [endsAt_cons_iff]
    · rw [List.getElem?_cons_succ] at hx
      rw [endsAt_singleton_succ, ih hx, List.length_cons, Nat.add_right_cancel_iff]
  | case3 a rest hrest ih =>
    obtain rfl : rest = [] := by
      have := flatten_cutAfter rest
      rw [hrest] at this
      simpa using this.symm
    rcases i with _ | i
    · simp [endsAt_cons_iff]
    · simp at hx
  | case4 a rest g gs hrest ih =>
    have hg : g ≠ [] := ne_nil_of_mem_cutAfter (by rw [hrest]; exact List.mem_cons_self ..)
    rw [hrest] at ih
    rcases i with _ | i
    · obtain rfl : (a, false) = x := by simpa using hx
      have hne : rest ≠ [] := by
        rintro rfl
        simp [cutAfter] at hrest
      simp [not_endsAt_zero hg, hne]
    · rw [List.getElem?_cons_succ] at hx
      rw [endsAt_push_succ hg, ih hx, List.length_cons, Nat.add_right_cancel_iff]

lemma Program.segments_ofFlagged (xs : List (α × Bool)) :
    (Program.ofFlagged xs).flows.flatten = cutAfter xs := by
  unfold Program.ofFlagged
  rcases cutAfter xs with _ | ⟨g, gs⟩ <;> simp

end

def Statement.state : Statement → String
  | .line _ _ state | .block _ state | .blockEnd state | .arrow _ _ _ state => state

lemma Token.Writes.state_eq {t : Token} {s : Statement} (h : t.Writes s) : s.state = t.state := by
  cases h <;> rfl

lemma Token.endsSegment_iff (t : Token) :
    t.endsSegment = true ↔ t.state = ">" ∧ t.action ∉ blockEndWords ∧ ¬ t.HasColon := by
  simp only [endsSegment, Bool.and_eq_true, beq_iff_eq, Bool.not_eq_true',
    Option.isNone_iff_eq_none, colonName?_eq_none_iff, ← isBlockEnd_iff, Bool.not_eq_true,
    and_assoc]

/-- **Where segments end**: a statement is the last of its segment if and only if it is the last of
the program, or its mark is `>` and its line neither closes a block nor begins with a word that
carries the colon. -/
theorem endsAt_iff_marked (source : String) (p : Program Statement) (h : parse source = .ok p)
    (i : Nat) (s : Statement) (hs : p.statements[i]? = some s) :
    ∃ t n, (tokenize source)[i]? = some (t, n) ∧ t.Writes s ∧
      (EndsAt p.flows.flatten i ↔
        (s.state = ">" ∧ t.action ∉ blockEndWords ∧ ¬ t.HasColon) ∨
          i + 1 = p.statements.length) := by
  obtain ⟨ss, rfl, hall⟩ := program_of_ok h
  have hlen := hall.length_eq
  have hle : ss.length ≤ (((tokenize source).map Prod.fst).map Token.endsSegment).length := by
    rw [List.length_map, hlen]
  rw [Program.statements_ofFlagged, List.map_fst_zip hle] at hs ⊢
  obtain ⟨hi, rfl⟩ := List.getElem?_eq_some_iff.mp hs
  have hi' : i < (tokenize source).length := by simpa [← hlen] using hi
  have hwrites := hall.get (by simpa using hi') hi
  simp only [List.get_eq_getElem, List.getElem_map] at hwrites
  refine ⟨(tokenize source)[i].1, (tokenize source)[i].2, List.getElem?_eq_getElem hi', hwrites, ?_⟩
  have hflagged : (ss.zip (((tokenize source).map Prod.fst).map Token.endsSegment))[i]? =
      some (ss[i], (tokenize source)[i].1.endsSegment) := by
    rw [List.getElem?_zip_eq_some]
    simp [hi, hi']
  rw [Program.segments_ofFlagged, endsAt_cutAfter _ hflagged, Token.endsSegment_iff,
    hwrites.state_eq, List.length_zip, Nat.min_eq_left hle]

/-- A line, a block end and a line; the first two ask for a new segment. -/
def markedEndSource : String := "> 空\n> 终\n空\n"

def markedEndProgram : Program Statement :=
  ⟨[[[.line .pass [] ">"], [.blockEnd ">", .line .pass [] "~"]]]⟩

lemma parse_markedEndSource : parse markedEndSource = .ok markedEndProgram := by decide +kernel

theorem markedLine_ends :
    parse markedEndSource = .ok markedEndProgram ∧
      markedEndProgram.statements[0]? = some (.line .pass [] ">") ∧
      EndsAt markedEndProgram.flows.flatten 0 := by
  refine ⟨parse_markedEndSource, rfl, ?_⟩
  obtain ⟨t, n, ht, -, hends⟩ :=
    endsAt_iff_marked markedEndSource markedEndProgram parse_markedEndSource 0 _ rfl
  have htoken : (tokenize markedEndSource)[0]? = some (⟨"空", [], ">"⟩, 1) := by decide +kernel
  obtain ⟨rfl, rfl⟩ : (⟨"空", [], ">"⟩ : Token) = t ∧ 1 = n := by
    rw [htoken] at ht
    simpa using ht
  exact hends.mpr (.inl ⟨rfl, by decide, (Token.colonName?_eq_none_iff _).mp (by decide +kernel)⟩)

/-- The mark of the block end is passed over, although a line follows. -/
theorem markedEnd_goes_on :
    parse markedEndSource = .ok markedEndProgram ∧
      markedEndProgram.statements[1]? = some (.blockEnd ">") ∧
      markedEndProgram.statements.length = 3 ∧
      ¬ EndsAt markedEndProgram.flows.flatten 1 := by
  refine ⟨parse_markedEndSource, rfl, rfl, ?_⟩
  simp only [markedEndProgram, List.flatten_cons, List.flatten_nil, List.append_nil,
    endsAt_cons_iff, not_endsAt_nil, List.length_cons, List.length_nil, and_false, exists_false,
    or_false]
  rintro (⟨-, h⟩ | ⟨j, h, -, hj⟩) <;> omega

end Flowline
