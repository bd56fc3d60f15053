import Flowline.Proofs.BlockReading
import Flowline.Proofs.ProgramLayout

/-!
What the reader says of the layout of a generated program.

The lines of a generated program are found laid, so the reader of statements never meets a line
further in than it expects. As long as no line leaves a text or a bracket open, an error that the
reader gives for the layout says that a head has no body, or that there are too many levels. That
is so for the forms that the reader knows; after the beginning of a decorated function, which it does
not read, a line further out would be at fault too.
-/

namespace Flowline.Script

open Text

lemma not_ended_of_halts {l : Line} {why : Halt} (h : l.Halts why) : ¬ Ended l.pieces := by
  obtain ⟨qs, h, e, hpieces, hh, -, hqs⟩ := h
  rw [hpieces]
  clear hpieces
  rintro ⟨end', rest, ⟨used, heq, hused⟩, hend⟩
  -- the pieces that were read and those before the halt begin alike
  induction qs generalizing used with
  | nil =>
    rcases used with _ | ⟨u, used⟩
    · obtain ⟨rfl, -⟩ := List.cons.inj heq
      rw [hh] at hend
      cases hend
    · obtain ⟨rfl, -⟩ := List.cons.inj heq
      exact (hused h (by simp)).2 why hh
  | cons q qs ih =>
    rcases used with _ | ⟨u, used⟩
    · obtain ⟨rfl, -⟩ := List.cons.inj heq
      exact (hqs q (by simp)).1 hend
    · obtain ⟨rfl, htail⟩ := List.cons.inj heq
      exact ih (fun p hp => hqs p (List.mem_cons_of_mem q hp)) used htail
        fun p hp => hused p (List.mem_cons_of_mem q hp)

lemma Found.exists_first {line : Nat} {rs : List Row} {ls : List Line} (h : Found line rs ls)
    {r : Row} (hr : r ∈ rs.head?) : ∃ l ∈ ls.head?, l.column = 4 * r.level := by
  have hcolumn := h.column_head?
  rw [Option.mem_def.mp hr] at hcolumn
  exact Option.map_eq_some_iff.mp hcolumn

/-- Where a line was read to its end, a line was written, and what was found after it was written
after it. -/
lemma Found.split {line : Nat} {rs : List Row} {before after : List Line} {l : Line}
    (h : Found line rs (before ++ l :: after)) (hended : Ended l.pieces) :
    ∃ rows r rest, rs = rows ++ r :: rest ∧ FoundAt (line + rows.length) r l ∧
      Found (line + rows.length + 1) rest after := by
  generalize hls : before ++ l :: after = ls at h
  induction h generalizing before with
  | nil => simp at hls
  | @halted line r rs m why hline hhalts =>
    obtain ⟨-, rfl⟩ : before = [] ∧ l = m := by
      rcases before with _ | ⟨b, before⟩ <;> simp_all
    exact absurd hended (not_ended_of_halts hhalts)
  | @onward line r rs m ls hline hwhole hlevel hhead htail ih =>
    rcases before with _ | ⟨b, before⟩
    · obtain ⟨rfl, rfl⟩ := List.cons.inj hls
      exact ⟨[], r, rs, rfl, hline, htail⟩
    · obtain ⟨rows, s, rest, rfl, hfound, hrest⟩ := ih (List.cons.inj hls).2
      have hnumber : line + (r :: rows).length = line + 1 + rows.length := by
        rw [List.length_cons]
        omega
      exact ⟨r :: rows, s, rest, rfl, hnumber ▸ hfound, hnumber ▸ hrest⟩

/-- A text whose layout is at fault is cut into lines that are refused for that reason. -/
lemma readLines_of_isIndentation {text : String} {e : ReadError} (h : readProgram text = .error e)
    (hindent : e.isIndentation = true) :
    ∃ whole, scan true 1 0 [] [] text.toList = .ok whole ∧
      Script.readLines (Line.group [] whole.list) = .error e := by
  unfold readProgram at h
  split_ifs at h
  · -- a zero character
    obtain rfl := Except.error.inj h
    cases hindent
  rcases hscan : scan true 1 0 [] [] text.toList with ⟨fault, line⟩ | whole
  · -- the text cannot be cut
    rw [hscan] at h
    obtain rfl := Except.error.inj h
    cases hindent
  refine ⟨whole, rfl, ?_⟩
  rw [hscan] at h
  simp only [Pieces.read] at h
  rcases hread : Script.readLines (Line.group [] whole.list) with e' | ss
  · rw [hread] at h
    rcases hopened : whole.opened with _ | ⟨o, opened⟩
    · rw [hopened] at h
      exact congrArg _ (Except.error.inj h)
    · rw [hopened] at h
      have herror := Except.error.inj h
      split_ifs at herror
      · -- an open bracket is told instead
        obtain rfl := herror
        cases hindent
      · rw [herror]
  · -- the places of the statements are told last
    rw [hread] at h
    have hplaces : checkPlaces ss = .error e := h
    rw [isIndentation_of_checkPlaces hplaces] at hindent
    cases hindent

lemma Flaw.isIndentation_cases {f : Flaw} (h : f.isIndentation = true) :
    (∃ word number, f = .noBody word number) ∨ f = .unexpectedIndent ∨
      ∃ why, f = .halt why ∧ why ≠ .strayBackslash := by
  cases f with
  | noBody word number => exact .inl ⟨word, number, rfl⟩
  | unexpectedIndent => exact .inr (.inl rfl)
  | halt why =>
    refine .inr (.inr ⟨why, rfl, ?_⟩)
    rintro rfl
    cases h
  | _ => cases h

/-- The error names a line that no line further in follows. -/
def LacksBody (rs : List Row) (e : ReadError) : Prop :=
  ∃ before r after word, rs = before ++ r :: after ∧ e.flaw = .noBody word (before.length + 1) ∧
    ∀ s ∈ after.head?, s.level ≤ r.level

/-- The error says that there are too many levels, and a line stands too far in. -/
def TooDeep (rs : List Row) (e : ReadError) : Prop :=
  e.flaw = .halt .deepIndent ∧ ∃ r ∈ rs, r.level = levelLimit

/-- What is wrong with the layout of lines that leave nothing open. -/
lemma layout_fault {rs : List Row} (hstepped : Stepped 0 rs)
    (htexts : ∀ r ∈ rs, IsLineText r.line.text)
    (hclosed : ∀ x ∈ rs.zipIdx 1, leavesOpen x.2 x.1.text.toList = false) {e : ReadError}
    (he : readProgram (programText rs) = .error e) (hindent : e.isIndentation = true) :
    LacksBody rs e ∨ TooDeep rs e := by
  obtain ⟨whole, hwhole, hread⟩ := readLines_of_isIndentation he hindent
  obtain ⟨hfound, hlaid, -, -⟩ := layout_scan hstepped htexts hclosed hwhole
  have hbegin : ∀ l ∈ (Line.group [] whole.list).head?, l.column = 0 := by
    intro l hl
    obtain ⟨r, hr, hcolumn⟩ := hfound.first hl
    rw [← hcolumn, Nat.le_zero.mp (hstepped.begins r hr)]
  have hallowed := allowed_of_readLines hlaid hbegin hread
  obtain ⟨word, number, hflaw⟩ | hflaw | ⟨why, hflaw, hwhy⟩ := Flaw.isIndentation_cases hindent
  · -- a body is missing
    obtain ⟨before, l, after, hls, hnumber, hended, hafter⟩ := hallowed.body word number hflaw
    rw [hls] at hfound
    obtain ⟨rows, r, rest, rfl, hline, hrest⟩ := hfound.split hended
    refine .inl ⟨rows, r, rest, word, rfl, ?_, fun s hs => ?_⟩
    · rw [hflaw, ← hnumber, hline.number, Nat.add_comm]
    · obtain ⟨m, hm, hcolumn⟩ := hrest.exists_first hs
      have hle := hafter m hm
      rw [hcolumn, hline.column] at hle
      omega
  · exact absurd hflaw hallowed.indent
  · -- cutting has halted
    obtain ⟨l, hl, p, hp, hlexeme⟩ := hallowed.halt why hflaw
    obtain rfl | ⟨rfl, hdeep⟩ := hfound.halt hl hp hlexeme
    · exact absurd rfl hwhy
    · exact .inr ⟨hflaw, hdeep⟩

/-- The reader refuses the layout of a generated program of which no line leaves a text or a bracket
open only for a head without a body or for too many levels. -/
theorem lacksBody_or_tooDeep {source code : String} {p : Program Statement}
    (hp : parse source = .ok p) (hcode : p.compile.code = .ok code)
    (hclosed : ∀ x ∈ (sourceLines code.toList).zipIdx 1, leavesOpen x.2 x.1 = false)
    {e : ReadError} (he : readProgram code = .error e) (hindent : e.isIndentation = true) :
    ∃ rows, code = programText rows ∧ (LacksBody rows e ∨ TooDeep rows e) := by
  obtain ⟨rows, rfl, hstatements, hstepped⟩ := compile_rows hcode
  have htexts := rows_isLineText hp hstatements
  rw [sourceLines_programText htexts, List.zipIdx_map] at hclosed
  exact ⟨rows, rfl, layout_fault hstepped htexts
    (fun x hx => hclosed _ (List.mem_map_of_mem hx)) he hindent⟩

end Flowline.Script
