import Mathlib.Data.List.Chain
import Mathlib.Tactic.Lemma
import Flowline.Proofs.PieceReading

/-!
Reading lines that are laid out in steps.

In a laid text a line goes one level further in only after a head. Then a body that is there is
found where it belongs, what follows a statement never stands further in than it, and no indentation
is unexpected. All that the reader can say of the layout is that a head has no body, or that cutting
has halted.
-/

namespace Flowline.Script

/-! ### Layouts -/

lemma Laid.suffix {ls rest : List Line} (h : Laid ls) (hrest : rest <:+ ls) : Laid rest :=
  ⟨h.steps.suffix hrest, fun l hl => h.width l (hrest.subset hl)⟩

lemma Laid.follows {l : Line} {ls : List Line} (h : Laid (l :: ls)) :
    ∀ m ∈ ls.head?, Follows l m := by
  rcases ls with _ | ⟨m, ls⟩
  · simp
  · intro m' hm
    obtain rfl : m = m' := by simpa using hm
    exact (List.isChain_cons_cons.mp h.steps).1

/-! ### What is said and what is left -/

/-- The error may be said of laid lines: a body is missing after a line that was read to its end, or
cutting has halted on a line, or the error is none of the layout. -/
structure Allowed (ls : List Line) (e : ReadError) : Prop where
  indent : e.flaw ≠ .unexpectedIndent
  halt : ∀ why, e.flaw = .halt why → ∃ l ∈ ls, ∃ p ∈ l.pieces, p.lexeme = .halt why
  body : ∀ word number, e.flaw = .noBody word number →
    ∃ before l after, ls = before ++ l :: after ∧ l.number = number ∧ Ended l.pieces ∧
      ∀ m ∈ after.head?, m.column ≤ l.column

lemma Allowed.mono {ls ms : List Line} {e : ReadError} (h : Allowed ms e) (hms : ms <:+ ls) :
    Allowed ls e := by
  refine ⟨h.indent, fun why hwhy => ?_, fun word number hbody => ?_⟩
  · obtain ⟨l, hl, hhalt⟩ := h.halt why hwhy
    exact ⟨l, hms.subset hl, hhalt⟩
  · obtain ⟨before, l, after, rfl, hl⟩ := h.body word number hbody
    obtain ⟨first, rfl⟩ := hms
    exact ⟨first ++ before, l, after, by simp, hl⟩

lemma Local.allowed {l : Line} {e : ReadError} (h : Local l.pieces e) {ls : List Line}
    (hl : l ∈ ls) : Allowed ls e :=
  ⟨h.indent, fun why hwhy => ⟨l, hl, h.halt why hwhy⟩,
    fun word number hbody => absurd hbody (h.body word number)⟩

lemma allowed_of_isPlain {f : Flaw} (h : f.IsPlain = true) (ls : List Line) (number : Nat) :
    Allowed ls ⟨f, number⟩ := by
  refine ⟨?_, ?_, ?_⟩
  · rintro rfl
    cases h
  · rintro why rfl
    cases h
  · rintro word n rfl
    cases h

section

variable {α β : Type} {P Q : Nat → Prop} {ls ms rest : List Line}

/-- A reader of lines that leaves lines of which the first stands in a column of some kind, or says
what may be said. -/
structure Leaves (ls : List Line) (P : Nat → Prop) (r : Except ReadError (α × List Line)) :
    Prop where
  allowed : ∀ e, r = .error e → Allowed ls e
  rest : ∀ a rest, r = .ok (a, rest) → rest <:+ ls ∧ ∀ m ∈ rest.head?, P m.column

lemma Leaves.mono {r : Except ReadError (α × List Line)} (h : Leaves ms P r) (hms : ms <:+ ls) :
    Leaves ls P r := by
  refine ⟨fun e he => (h.allowed e he).mono hms, fun a rest hr => ?_⟩
  obtain ⟨hsuffix, hcolumn⟩ := h.rest a rest hr
  exact ⟨hsuffix.trans hms, hcolumn⟩

lemma Leaves.weaken {r : Except ReadError (α × List Line)} (h : Leaves ls P r)
    (hPQ : ∀ m ∈ ls, P m.column → Q m.column) : Leaves ls Q r := by
  refine ⟨h.allowed, fun a rest hr => ?_⟩
  obtain ⟨hsuffix, hcolumn⟩ := h.rest a rest hr
  exact ⟨hsuffix, fun m hm => hPQ m (hsuffix.subset (List.mem_of_mem_head? hm)) (hcolumn m hm)⟩

lemma leaves_ok (a : α) (hrest : rest <:+ ls) (hcolumn : ∀ m ∈ rest.head?, P m.column) :
    Leaves ls P (.ok (a, rest)) := by
  refine ⟨by simp, fun b rest' hr => ?_⟩
  obtain ⟨-, rfl⟩ := Prod.mk.inj (Except.ok.inj hr)
  exact ⟨hrest, hcolumn⟩

lemma leaves_error {e : ReadError} (h : Allowed ls e) :
    Leaves ls P (.error e : Except ReadError (α × List Line)) := by
  refine ⟨fun e' he' => ?_, fun _ _ hr => nomatch hr⟩
  obtain rfl := Except.error.inj he'
  exact h

lemma Leaves.bind {r : Except ReadError (α × List Line)}
    {f : α × List Line → Except ReadError (β × List Line)} (h : Leaves ls P r)
    (hf : ∀ a rest, rest <:+ ls → (∀ m ∈ rest.head?, P m.column) → Leaves ls Q (f (a, rest))) :
    Leaves ls Q (r >>= f) := by
  rcases r with e | ⟨a, rest⟩
  · exact leaves_error (h.allowed e rfl)
  · obtain ⟨hsuffix, hcolumn⟩ := h.rest a rest rfl
    exact hf a rest hsuffix hcolumn

/-- What comes after a line was read to its end. -/
lemma ReadsLine.leaves {l : Line} {r : Except ReadError α}
    {f : α → Except ReadError (β × List Line)} (h : ReadsLine l.pieces r) (hl : l ∈ ls)
    (hf : ∀ a, r = .ok a → Ended l.pieces → Leaves ls Q (f a)) : Leaves ls Q (r >>= f) := by
  rcases r with e | a
  · exact leaves_error ((h.tells e rfl).allowed hl)
  · exact hf a rfl (h.ended a rfl)

end

/-! ### Statements -/

structure LineReaders (n : Nat) : Prop where
  block : ∀ column ls, Laid ls → (∀ m ∈ ls.head?, m.column ≤ column) →
    Leaves ls (· < column) (readBlock n column ls)
  body : ∀ word head ls, Laid (head :: ls) → Ended head.pieces →
    Leaves (head :: ls) (· ≤ head.column) (readBody n word head ls)
  stmt : ∀ l ls, Laid (l :: ls) → Leaves (l :: ls) (· ≤ l.column) (readStmt n l ls)
  clauses : ∀ column chained ls, Laid ls → (∀ m ∈ ls.head?, m.column ≤ column) →
    Leaves ls (· ≤ column) (readElse n column chained ls)
  handlers : ∀ column ls, Laid ls → (∀ m ∈ ls.head?, m.column ≤ column) →
    Leaves ls (· ≤ column) (readHandlers n column ls)

lemma lineReaders_zero : LineReaders 0 := by
  constructor <;> intros <;>
    simp only [readBlock, readBody, readStmt, readElse, readHandlers] <;>
    exact leaves_error (allowed_of_isPlain rfl _ _)

lemma allowed_halt? {l : Line} {ls : List Line} {why : Halt} (h : l.halt? = some why)
    (hl : l ∈ ls) (number : Nat) : Allowed ls ⟨.halt why, number⟩ := by
  refine ⟨by simp, fun other hother => ?_, by simp⟩
  obtain rfl := Flaw.halt.inj hother
  unfold Line.halt? at h
  split at h
  · next other _ _ _ ps hpieces =>
    obtain rfl := Option.some.inj h
    exact ⟨l, hl, ⟨.halt other, _, _, _⟩, by rw [hpieces]; exact List.mem_cons_self, rfl⟩
  · cases h

section

variable {n : Nat} (h : LineReaders n)

include h

lemma LineReaders.succ_block (column : Nat) (ls : List Line) (hlaid : Laid ls)
    (hbegin : ∀ m ∈ ls.head?, m.column ≤ column) :
    Leaves ls (· < column) (readBlock (n + 1) column ls) := by
  rcases ls with _ | ⟨l, ls⟩
  · exact leaves_ok [] List.suffix_rfl (by simp)
  have hle : l.column ≤ column := hbegin l rfl
  rw [readBlock]
  split
  · next why hwhy => exact leaves_error (allowed_halt? hwhy List.mem_cons_self _)
  · split_ifs with hlt hgt
    · exact leaves_ok [] List.suffix_rfl (by simpa using hlt)
    · exact absurd hgt (Nat.not_lt.mpr hle)
    · obtain rfl : column = l.column := Nat.le_antisymm (Nat.not_lt.mp hlt) hle
      refine (h.stmt l ls hlaid).bind fun s rest hsuffix hrest => ?_
      refine ((h.block _ rest (hlaid.suffix hsuffix) hrest).mono hsuffix).bind
        fun ss rest' hsuffix' hrest' => ?_
      exact leaves_ok _ hsuffix' hrest'

lemma LineReaders.succ_body (word : String) (head : Line) (ls : List Line)
    (hlaid : Laid (head :: ls)) (hended : Ended head.pieces) :
    Leaves (head :: ls) (· ≤ head.column) (readBody (n + 1) word head ls) := by
  rcases ls with _ | ⟨l, ls⟩
  · refine leaves_error ⟨by simp, by simp, fun word' number hbody => ?_⟩
    obtain ⟨-, rfl⟩ := Flaw.noBody.inj hbody
    exact ⟨[], head, [], rfl, rfl, hended, by simp⟩
  rw [readBody]
  split
  · next why hwhy => exact leaves_error (allowed_halt? hwhy (by simp) _)
  · split_ifs with hdeeper
    · have hcolumn : l.column = head.column + 4 := by
        rcases hlaid.follows l rfl with hle | ⟨-, heq⟩
        · exact absurd hdeeper (Nat.not_lt.mpr hle)
        · exact heq
      have hblock := h.block l.column (l :: ls) (hlaid.suffix (List.suffix_cons _ _)) (by simp)
      refine (hblock.mono (List.suffix_cons head _)).weaken fun m hm hlt => ?_
      -- columns are multiples of the width, so less than one level further in is not further in
      have hm := hlaid.width m hm
      have hhead := hlaid.width head List.mem_cons_self
      omega
    · refine leaves_error ⟨by simp, by simp, fun word' number hbody => ?_⟩
      obtain ⟨-, rfl⟩ := Flaw.noBody.inj hbody
      exact ⟨[], head, l :: ls, rfl, rfl, hended, by simpa using Nat.not_lt.mp hdeeper⟩

/-- A head, its body, and the clauses after it. -/
lemma LineReaders.headed {α γ : Type} {l : Line} {ls : List Line} (hlaid : Laid (l :: ls))
    {r : Except ReadError α} (hhead : ReadsLine l.pieces r) (word : String) (chained : Bool)
    (build : α → List Stmt → List Stmt → γ) :
    Leaves (l :: ls) (· ≤ l.column) (r >>= fun a => readBody n word l ls >>= fun x =>
      readElse n l.column chained x.2 >>= fun y => .ok (build a x.1 y.1, y.2)) := by
  refine hhead.leaves List.mem_cons_self fun a _ hended => ?_
  refine (h.body word l ls hlaid hended).bind fun body rest hsuffix hrest => ?_
  have hclauses := h.clauses l.column chained rest (hlaid.suffix hsuffix) hrest
  refine (hclauses.mono hsuffix).bind fun orelse rest' hsuffix' hrest' => ?_
  exact leaves_ok _ hsuffix' hrest'

lemma LineReaders.succ_clauses (column : Nat) (chained : Bool) (ls : List Line) (hlaid : Laid ls)
    (hbegin : ∀ m ∈ ls.head?, m.column ≤ column) :
    Leaves ls (· ≤ column) (readElse (n + 1) column chained ls) := by
  rcases ls with _ | ⟨l, ls⟩
  · exact leaves_ok [] List.suffix_rfl (by simp)
  rw [readElse]
  split
  · next ps hafter =>
    split_ifs at hafter with hcolumn
    obtain ⟨rfl, -⟩ : l.column = column ∧ chained = true := by simpa using hcolumn
    have hhead := settled_readsLine fun s => readCondition_readsLine s ps
    exact h.headed hlaid (hhead.mono (past_after? (isPlain_name _) hafter)) "elif" true
      fun e body orelse => [Stmt.branch e body orelse]
  · next ps hafter _ =>
    split_ifs at hafter with hcolumn
    subst hcolumn
    have hhead := (needColon_readsLine () ps).mono (past_after? (isPlain_name _) hafter)
    exact hhead.leaves List.mem_cons_self fun _ _ hended => h.body "else" l ls hlaid hended
  · exact leaves_ok [] List.suffix_rfl hbegin

lemma LineReaders.succ_handlers (column : Nat) (ls : List Line) (hlaid : Laid ls)
    (hbegin : ∀ m ∈ ls.head?, m.column ≤ column) :
    Leaves ls (· ≤ column) (readHandlers (n + 1) column ls) := by
  rcases ls with _ | ⟨l, ls⟩
  · exact leaves_ok [] List.suffix_rfl (by simp)
  rw [readHandlers]
  split
  · exact leaves_ok [] List.suffix_rfl hbegin
  · next ps hafter =>
    split_ifs at hafter with hcolumn
    subst hcolumn
    have hhead := settled_readsLine fun s => readKind_readsLine s ps
    refine (hhead.mono (past_after? (isPlain_name _) hafter)).leaves List.mem_cons_self
      fun kind _ hended => ?_
    refine (h.body "except" l ls hlaid hended).bind fun body rest hsuffix hrest => ?_
    refine ((h.handlers _ rest (hlaid.suffix hsuffix) hrest).mono hsuffix).bind
      fun hs rest' hsuffix' hrest' => ?_
    exact leaves_ok _ hsuffix' hrest'

lemma LineReaders.succ_stmt (l : Line) (ls : List Line) (hlaid : Laid (l :: ls)) :
    Leaves (l :: ls) (· ≤ l.column) (readStmt (n + 1) l ls) := by
  have hmem : l ∈ l :: ls := List.mem_cons_self
  rw [readStmt]
  split
  · next ps hafter =>
    have hhead := settled_readsLine fun s => readCondition_readsLine s ps
    exact h.headed hlaid (hhead.mono (past_after? (isPlain_name _) hafter)) "if" true
      Stmt.branch
  · next ps hafter _ =>
    have hhead := settled_readsLine fun s => readCondition_readsLine s ps
    exact h.headed hlaid (hhead.mono (past_after? (isPlain_name _) hafter)) "while" false
      (Stmt.repeat_ l.number)
  · next ps hafter _ _ =>
    have hhead := settled_readsLine fun s => readLoop_readsLine s ps
    exact h.headed hlaid (hhead.mono (past_after? (isPlain_name _) hafter)) "for" false
      fun x body orelse => Stmt.each l.number x.1 x.2 body orelse
  · next ps hafter _ _ _ =>
    have hpast : Past l.pieces ps := past_after? (isPlain_name _) hafter
    refine ((needColon_readsLine () ps).mono hpast).leaves hmem fun _ _ hended => ?_
    refine (h.body "try" l ls hlaid hended).bind fun body rest hsuffix hrest => ?_
    refine ((h.handlers _ rest (hlaid.suffix hsuffix) hrest).mono hsuffix).bind
      fun handlers rest' hsuffix' hrest' => ?_
    have hnone : Leaves (l :: ls) (· ≤ l.column) (.ok (([] : List Stmt), rest')) :=
      leaves_ok [] hsuffix' hrest'
    have hclauses := (h.clauses l.column false rest' (hlaid.suffix hsuffix') hrest').mono hsuffix'
    simp only
    split
    on_goal 1 => refine hnone.bind ?_
    on_goal 2 => refine hclauses.bind ?_
    -- the last clause follows or is missing, which is an error if there are no handlers
    all_goals
      intro orelse rest'' hsuffix'' hrest''
      simp only
      split
      · first
        | exact leaves_error (allowed_of_isPlain rfl _ _)
        | exact leaves_ok _ List.nil_suffix (by simp)
      · next f more =>
        split
        · next ps' hfinally =>
          split_ifs at hfinally with hcolumn
          have hlast : Past f.pieces ps' := past_after? (isPlain_name _) hfinally
          refine ((needColon_readsLine () ps').mono hlast).leaves (hsuffix''.subset (by simp))
            fun _ _ hend => ?_
          have hbody := h.body "finally" f more (hlaid.suffix hsuffix'') hend
          rw [hcolumn] at hbody
          exact (hbody.mono hsuffix'').bind fun final rest hs hr => leaves_ok _ hs hr
        · first
          | exact leaves_error (allowed_of_isPlain rfl _ _)
          | exact leaves_ok _ hsuffix'' hrest''
  · next ps hafter _ _ _ _ =>
    have hpast : Past l.pieces ps := past_after? (isPlain_name _) hafter
    have hhead := (settled_readsLine fun s => readSignature_readsLine s ps).mono hpast
    refine hhead.leaves hmem fun e _ hended => ?_
    refine (h.body "def" l ls hlaid hended).bind fun body rest hsuffix hrest => ?_
    exact leaves_ok _ hsuffix hrest
  · next hif hwhile hfor htry hdef =>
    have hline := settled_readsLine fun s => readSimple_readsLine s l
    refine hline.leaves hmem fun s hs _ => leaves_ok s (List.suffix_cons l ls) fun m hm => ?_
    -- a line that is read by itself is no head, so nothing stands further in after it
    rcases hlaid.follows m hm with hle | ⟨⟨⟨word, hword, hsome⟩, -⟩, -⟩
    · exact hle
    · simp only [headWords, List.mem_append, List.mem_cons, List.not_mem_nil, or_false] at hword
      rcases hword with (rfl | rfl | rfl | rfl | rfl) | hword
      · simp [hif] at hsome
      · simp [hwhile] at hsome
      · simp [hfor] at hsome
      · simp [htry] at hsome
      · simp [hdef] at hsome
      · exact absurd (settled_eq_ok hs) (readSimple_clauseWord hword hsome false s)

end

lemma lineReaders (n : Nat) : LineReaders n := by
  induction n with
  | zero => exact lineReaders_zero
  | succ n ih =>
    exact ⟨ih.succ_block, ih.succ_body, ih.succ_stmt, ih.succ_clauses, ih.succ_handlers⟩

/-- All that is said of laid lines that begin in the first column may be said. -/
lemma allowed_of_readLines {ls : List Line} (hlaid : Laid ls)
    (hbegin : ∀ m ∈ ls.head?, m.column = 0) {e : ReadError}
    (he : Script.readLines ls = .error e) : Allowed ls e := by
  have hblock := (lineReaders (3 * ls.length + 3)).block 0 ls hlaid fun m hm => (hbegin m hm).le
  rw [Script.readLines] at he
  cases hread : readBlock (3 * ls.length + 3) 0 ls with
  | error e' =>
    rw [hread] at he
    obtain rfl := Except.error.inj he
    exact hblock.allowed e' hread
  | ok x =>
    obtain ⟨ss, rest⟩ := x
    rw [hread] at he
    rcases rest with _ | ⟨l, rest⟩
    · cases he
    · obtain rfl := Except.error.inj he
      exact allowed_of_isPlain rfl ls l.number

end Flowline.Script
