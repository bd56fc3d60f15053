import Mathlib.Tactic.Lemma
import Flowline.Proofs.LineScans
import Flowline.Script.Read

/-!
What is read of a line, and what is said of it.

Every reader of pieces takes plain pieces off the front of a line and leaves the rest. Where it
fails, it says nothing of the layout, unless cutting has halted on the line. So a head that is read
to its end is a whole line.
-/

namespace Flowline.Script

/-! ### Pieces that are left -/

/-- Plain pieces were read, and the rest is left. -/
def Past (ps rest : List Piece) : Prop := ∃ used, ps = used ++ rest ∧ ∀ p ∈ used, p.lexeme.IsPlain

lemma Past.refl (ps : List Piece) : Past ps ps := ⟨[], rfl, by simp⟩

lemma Past.trans {ps qs rs : List Piece} (h : Past ps qs) (h' : Past qs rs) : Past ps rs := by
  obtain ⟨used, rfl, hused⟩ := h
  obtain ⟨more, rfl, hmore⟩ := h'
  refine ⟨used ++ more, (List.append_assoc _ _ _).symm, fun p hp => ?_⟩
  rcases List.mem_append.mp hp with hp | hp
  · exact hused p hp
  · exact hmore p hp

lemma Past.subset {ps rest : List Piece} (h : Past ps rest) : rest ⊆ ps := by
  obtain ⟨used, rfl, -⟩ := h
  exact List.subset_append_right used rest

lemma past_cons {p : Piece} (hp : p.lexeme.IsPlain) (ps : List Piece) : Past (p :: ps) ps :=
  ⟨[p], rfl, by simpa using hp⟩

lemma past_after? {l : Lexeme} {ps rest : List Piece} (hl : l.IsPlain)
    (h : after? l ps = some rest) : Past ps rest := by
  rcases ps with _ | ⟨p, ps⟩
  · cases h
  · rw [after?] at h
    split_ifs at h with hp
    obtain rfl := Option.some.inj h
    exact past_cons (hp ▸ hl) ps

lemma isPlain_name (x : String) : (Lexeme.name x).IsPlain := by simp [Lexeme.IsPlain]

lemma isPlain_sign (s : String) : (Lexeme.sign s).IsPlain := by simp [Lexeme.IsPlain]

/-! ### Errors -/

/-- The error says nothing of the layout, unless cutting halts at one of the pieces. -/
structure Local (ps : List Piece) (e : ReadError) : Prop where
  indent : e.flaw ≠ .unexpectedIndent
  body : ∀ word line, e.flaw ≠ .noBody word line
  halt : ∀ why, e.flaw = .halt why → ∃ p ∈ ps, p.lexeme = .halt why

lemma Local.mono {ps qs : List Piece} {e : ReadError} (h : Local qs e) (hqs : qs ⊆ ps) :
    Local ps e := by
  refine ⟨h.indent, h.body, fun why hwhy => ?_⟩
  obtain ⟨p, hp, hhalt⟩ := h.halt why hwhy
  exact ⟨p, hqs hp, hhalt⟩

/-- A flaw of one line that no layout has. -/
def Flaw.IsPlain : Flaw → Bool
  | .unexpectedIndent | .noBody .. | .halt _ => false
  | _ => true

lemma local_of_isPlain {f : Flaw} (h : f.IsPlain = true) (ps : List Piece) (line : Nat) :
    Local ps ⟨f, line⟩ := by
  refine ⟨?_, ?_, ?_⟩
  · rintro rfl
    cases h
  · rintro word n rfl
    cases h
  · rintro why rfl
    cases h

section

variable {α β : Type} {ps qs rest : List Piece}

/-- Where it fails, it says nothing of the layout. -/
def Tells (ps : List Piece) (r : Except ReadError α) : Prop := ∀ e, r = .error e → Local ps e

lemma Tells.mono {r : Except ReadError α} (h : Tells qs r) (hqs : qs ⊆ ps) : Tells ps r :=
  fun e he => (h e he).mono hqs

lemma tells_ok (a : α) : Tells ps (.ok a : Except ReadError α) := fun _ h => nomatch h

lemma tells_error {f : Flaw} (h : f.IsPlain = true) (line : Nat) :
    Tells ps (.error ⟨f, line⟩ : Except ReadError α) := by
  rintro e he
  obtain rfl := Except.error.inj he
  exact local_of_isPlain h ps line

lemma tells_stuck (ps : List Piece) : Tells ps (stuck ps : Except ReadError α) := by
  unfold stuck
  split
  · next why line _ _ ps =>
    intro e he
    obtain rfl := Except.error.inj he
    refine ⟨by simp, by simp, fun other hother => ⟨_, List.mem_cons_self, ?_⟩⟩
    rw [Flaw.halt.inj hother]
  · exact tells_error rfl _

lemma tells_missing (sign : String) (ps : List Piece) :
    Tells ps (missing sign ps : Except ReadError α) := by
  unfold missing
  split
  · exact tells_stuck _
  · exact tells_error rfl _

/-- A reader that takes plain pieces off the front, or fails. -/
structure Reads (ps : List Piece) (r : Except ReadError (α × List Piece)) : Prop where
  tells : Tells ps r
  past : ∀ a rest, r = .ok (a, rest) → Past ps rest

lemma Reads.mono {r : Except ReadError (α × List Piece)} (h : Reads qs r) (hqs : Past ps qs) :
    Reads ps r :=
  ⟨h.tells.mono hqs.subset, fun a rest hr => hqs.trans (h.past a rest hr)⟩

lemma reads_ok (a : α) (h : Past ps rest) : Reads ps (.ok (a, rest)) := by
  refine ⟨tells_ok _, fun b rest' hr => ?_⟩
  obtain ⟨-, rfl⟩ := Prod.mk.inj (Except.ok.inj hr)
  exact h

lemma reads_error {r : Except ReadError (α × List Piece)} (h : Tells ps r)
    (herror : ∀ x, r ≠ .ok x) : Reads ps r :=
  ⟨h, fun _ _ hr => absurd hr (herror _)⟩

lemma reads_stuck (h : Past ps rest) :
    Reads ps (stuck rest : Except ReadError (α × List Piece)) := by
  refine reads_error ((tells_stuck rest).mono h.subset) fun x hx => ?_
  unfold stuck at hx
  split at hx <;> cases hx

lemma Reads.bind {r : Except ReadError (α × List Piece)}
    {f : α × List Piece → Except ReadError (β × List Piece)} (h : Reads ps r)
    (hf : ∀ a rest, Past ps rest → Reads ps (f (a, rest))) : Reads ps (r >>= f) := by
  rcases r with e | ⟨a, rest⟩
  · refine reads_error (fun e' he' => ?_) fun x hx => nomatch hx
    obtain rfl := Except.error.inj he'
    exact h.tells e rfl
  · exact hf a rest (h.past a rest rfl)

lemma Reads.map {r : Except ReadError (α × List Piece)} (h : Reads ps r) (f : α → β) :
    Reads ps (r.map fun x => (f x.1, x.2)) :=
  h.bind fun a _ hrest => reads_ok (f a) hrest

end

/-! ### Expressions -/

lemma readTexts_reads (bytes : Bool) (value : String) (ps : List Piece) :
    Reads ps (readTexts bytes value ps) := by
  induction ps generalizing value with
  | nil => exact reads_ok _ (.refl _)
  | cons p ps ih =>
    rw [readTexts]
    split
    · next s hs =>
      split_ifs
      · exact reads_error (tells_error rfl _) (by simp)
      · exact (ih _).mono (past_cons (by simp [hs, Lexeme.IsPlain]) ps)
    · next hs =>
      split_ifs
      · exact (ih _).mono (past_cons (by simp [hs, Lexeme.IsPlain]) ps)
      · exact reads_error (tells_error rfl _) (by simp)
    · exact reads_error (tells_error rfl _) (by simp)
    · exact reads_ok _ (.refl _)

lemma readAtom_reads (ps : List Piece) : Reads ps (readAtom ps) := by
  unfold readAtom
  split
  · exact reads_stuck (.refl _)
  · next p rest =>
    split
    · next w hw =>
      have hpast : Past (p :: rest) rest := past_cons (hw ▸ isPlain_name w) rest
      split
      · exact reads_ok _ hpast
      · split_ifs
        · exact reads_stuck (.refl _)
        · exact reads_ok _ hpast
    · next n hn => exact reads_ok _ (past_cons (by simp [hn, Lexeme.IsPlain]) rest)
    · next s hs =>
      have hpast : Past (p :: rest) rest := past_cons (by simp [hs, Lexeme.IsPlain]) rest
      exact ((readTexts_reads false s rest).mono hpast).map Expr.text
    · next hs =>
      have hpast : Past (p :: rest) rest := past_cons (by simp [hs, Lexeme.IsPlain]) rest
      exact ((readTexts_reads true "" rest).mono hpast).bind fun _ _ _ => reads_stuck (.refl _)
    · exact reads_error (tells_error rfl _) (by simp)
    · exact reads_stuck (.refl _)
    · exact reads_stuck (.refl _)
    · exact reads_stuck (.refl _)

lemma plain_of_comparison? {l : Lexeme} {op : Comparison} (h : comparison? l = some op) :
    l.IsPlain := by
  cases l <;> first | exact isPlain_sign _ | cases h

lemma plain_of_sumSign? {l : Lexeme} {op : Arith} (h : sumSign? l = some op) : l.IsPlain := by
  cases l <;> first | exact isPlain_sign _ | cases h

lemma plain_of_productSign? {l : Lexeme} {op : Arith} (h : productSign? l = some op) :
    l.IsPlain := by
  cases l <;> first | exact isPlain_sign _ | cases h

structure ExprReaders (n : Nat) : Prop where
  expr : ∀ searching ps, Reads ps (readExpr n searching ps)
  disjunction : ∀ searching ps, Reads ps (readOr n searching ps)
  conjunction : ∀ searching ps, Reads ps (readAnd n searching ps)
  negation : ∀ searching ps, Reads ps (readNot n searching ps)
  comparisons : ∀ searching ps, Reads ps (readComparisons n searching ps)
  sum : ∀ searching ps, Reads ps (readSum n searching ps)
  sumRest : ∀ searching a ps, Reads ps (readSumRest n searching a ps)
  product : ∀ searching ps, Reads ps (readProduct n searching ps)
  productRest : ∀ searching a ps, Reads ps (readProductRest n searching a ps)
  unary : ∀ searching ps, Reads ps (readUnary n searching ps)
  calls : ∀ searching f ps, Reads ps (readCalls n searching f ps)
  args : ∀ searching ps, Reads ps (readArgs n searching ps)

lemma exprReaders_zero : ExprReaders 0 := by
  constructor <;> intros <;>
    simp only [readExpr, readOr, readAnd, readNot, readComparisons, readSum, readSumRest,
      readProduct, readProductRest, readUnary, readCalls, readArgs] <;>
    exact reads_stuck (.refl _)

section

variable {n : Nat} (h : ExprReaders n) (searching : Bool) (ps : List Piece)

include h

lemma ExprReaders.succ_or : Reads ps (readOr (n + 1) searching ps) := by
  rw [readOr]
  refine (h.conjunction searching ps).bind fun a rest hrest => ?_
  simp only
  split
  · next rest' hafter =>
    have hpast := hrest.trans (past_after? (isPlain_name _) hafter)
    exact ((h.disjunction searching rest').mono hpast).map _
  · exact reads_ok _ hrest

omit h in
/-- Reading goes on from an error to nothing. -/
lemma reads_bind_error {α β : Type} {r : Except ReadError α} (hr : Tells ps r)
    (herror : ∀ a, r ≠ .ok a) (f : α → Except ReadError (β × List Piece)) : Reads ps (r >>= f) := by
  rcases r with e | a
  · refine reads_error (fun e' he' => ?_) fun x hx => nomatch hx
    obtain rfl := Except.error.inj he'
    exact hr e rfl
  · exact absurd rfl (herror a)

/-- Searching, an expression may be followed by the beginning of a choice. -/
lemma ExprReaders.choice {a : Expr} {rest : List Piece} (hrest : Past ps rest) {line : Nat}
    {r : Except ReadError (Expr × List Piece)}
    (hnone : after? (.name "if") rest = none → r = .ok (a, rest))
    (hsome : ∀ choice, after? (.name "if") rest = some choice →
      r = readOr n searching choice >>= fun x =>
        if ((after? (.name "else") x.2).isSome || (after? (.sign ":") x.2).isSome) = true then
          pure (a, rest)
        else .error ⟨.noElse, line⟩) : Reads ps r := by
  cases hif : after? (.name "if") rest with
  | none =>
    rw [hnone hif]
    exact reads_ok a hrest
  | some choice =>
    rw [hsome choice hif]
    have hpast := hrest.trans (past_after? (isPlain_name _) hif)
    refine ((h.disjunction searching choice).mono hpast).bind fun b after _ => ?_
    split
    · exact reads_ok a hrest
    · exact reads_error (tells_error rfl _) (by simp)

lemma ExprReaders.succ_expr : Reads ps (readExpr (n + 1) searching ps) := by
  rw [readExpr]
  refine (h.disjunction searching ps).bind fun a rest hrest => ?_
  simp only
  split
  · have hprobe : Tells ps (if isNameThenText ps then stuck rest else readOr n false rest) := by
      split
      · exact (tells_stuck rest).mono hrest.subset
      · exact (h.disjunction false rest).tells.mono hrest.subset
    split
    · split
      · exact reads_bind_error ps (tells_error rfl _) (by simp) _
      · exact h.choice searching ps hrest (fun hif => by rw [hif]; rfl)
          fun choice hif => by rw [hif]
    · next e he =>
      split
      · exact h.choice searching ps hrest (fun hif => by rw [hif]; rfl)
          fun choice hif => by rw [hif]
      · refine reads_bind_error ps (fun e' he' => ?_) (by simp) _
        obtain rfl := Except.error.inj he'
        exact hprobe e he
  · exact reads_ok _ hrest

lemma ExprReaders.succ_and : Reads ps (readAnd (n + 1) searching ps) := by
  rw [readAnd]
  refine (h.negation searching ps).bind fun a rest hrest => ?_
  simp only
  split
  · next rest' hafter =>
    have hpast := hrest.trans (past_after? (isPlain_name _) hafter)
    exact ((h.conjunction searching rest').mono hpast).map _
  · exact reads_ok _ hrest

lemma ExprReaders.succ_not : Reads ps (readNot (n + 1) searching ps) := by
  rw [readNot]
  split
  · next rest hafter =>
    exact ((h.negation searching rest).mono (past_after? (isPlain_name _) hafter)).map _
  · refine (h.sum searching ps).bind fun a rest hrest => ?_
    exact ((h.comparisons searching rest).mono hrest).map fun more =>
      if more.isEmpty then a else .compare a more

lemma ExprReaders.succ_comparisons : Reads ps (readComparisons (n + 1) searching ps) := by
  cases ps with
  | nil => exact reads_ok _ (.refl _)
  | cons p ps =>
    rw [readComparisons]
    split
    · exact reads_ok _ (.refl _)
    · next op hop =>
      have hpast := past_cons (plain_of_comparison? hop) ps
      refine ((h.sum searching ps).mono hpast).bind fun a rest hrest => ?_
      exact ((h.comparisons searching rest).mono hrest).map _

lemma ExprReaders.succ_sum : Reads ps (readSum (n + 1) searching ps) := by
  rw [readSum]
  refine (h.product searching ps).bind fun a rest hrest => ?_
  exact (h.sumRest searching a rest).mono hrest

lemma ExprReaders.succ_sumRest (a : Expr) : Reads ps (readSumRest (n + 1) searching a ps) := by
  cases ps with
  | nil => exact reads_ok _ (.refl _)
  | cons p ps =>
    rw [readSumRest]
    split
    · exact reads_ok _ (.refl _)
    · next op hop =>
      have hpast := past_cons (plain_of_sumSign? hop) ps
      refine ((h.product searching ps).mono hpast).bind fun b rest hrest => ?_
      exact (h.sumRest searching _ rest).mono hrest

lemma ExprReaders.succ_product : Reads ps (readProduct (n + 1) searching ps) := by
  rw [readProduct]
  refine (h.unary searching ps).bind fun a rest hrest => ?_
  exact (h.productRest searching a rest).mono hrest

lemma ExprReaders.succ_productRest (a : Expr) :
    Reads ps (readProductRest (n + 1) searching a ps) := by
  cases ps with
  | nil => exact reads_ok _ (.refl _)
  | cons p ps =>
    rw [readProductRest]
    split
    · exact reads_ok _ (.refl _)
    · next op hop =>
      have hpast := past_cons (plain_of_productSign? hop) ps
      refine ((h.unary searching ps).mono hpast).bind fun b rest hrest => ?_
      exact (h.productRest searching _ rest).mono hrest

lemma ExprReaders.succ_unary : Reads ps (readUnary (n + 1) searching ps) := by
  rw [readUnary]
  split
  · next rest hafter =>
    exact ((h.unary searching rest).mono (past_after? (isPlain_sign _) hafter)).map _
  · next rest hafter _ =>
    exact ((h.unary searching rest).mono (past_after? (isPlain_sign _) hafter)).map
      fun a : Expr => a.negate.negate
  · next rest hafter _ _ =>
    have hpast := past_after? (isPlain_sign _) hafter
    refine ((h.expr searching rest).mono hpast).bind fun a rest' hrest => ?_
    simp only
    split
    · next rest'' hclose =>
      exact (h.calls searching a rest'').mono (hrest.trans (past_after? (isPlain_sign _) hclose))
    · exact reads_stuck hrest
  · refine (readAtom_reads ps).bind fun a rest hrest => ?_
    exact (h.calls searching a rest).mono hrest

lemma ExprReaders.succ_calls (f : Expr) : Reads ps (readCalls (n + 1) searching f ps) := by
  rw [readCalls]
  split
  · next rest hafter =>
    have hpast := past_after? (isPlain_sign _) hafter
    refine ((h.args searching rest).mono hpast).bind fun args rest' hrest => ?_
    exact (h.calls searching _ rest').mono hrest
  · next x line blanks depth rest hafter _ =>
    have hpast := past_after? (isPlain_sign _) hafter
    split
    · exact reads_stuck hpast
    · exact (h.calls searching _ rest).mono (hpast.trans (past_cons (isPlain_name x) rest))
  · next rest _ hafter _ => exact reads_stuck (past_after? (isPlain_sign _) hafter)
  · exact reads_ok _ (.refl _)

lemma ExprReaders.succ_args : Reads ps (readArgs (n + 1) searching ps) := by
  rw [readArgs]
  split
  · next rest hafter => exact reads_ok _ (past_after? (isPlain_sign _) hafter)
  · refine (h.expr searching ps).bind fun a rest hrest => ?_
    simp only
    split
    · next rest' hcomma =>
      have hpast := hrest.trans (past_after? (isPlain_sign _) hcomma)
      exact ((h.args searching rest').mono hpast).map _
    · next rest' hclose _ => exact reads_ok _ (hrest.trans (past_after? (isPlain_sign _) hclose))
    · exact reads_stuck hrest

end

lemma exprReaders (n : Nat) : ExprReaders n := by
  induction n with
  | zero => exact exprReaders_zero
  | succ n ih =>
    exact ⟨ih.succ_expr, ih.succ_or, ih.succ_and, ih.succ_not, ih.succ_comparisons, ih.succ_sum,
      fun s a ps => ih.succ_sumRest s ps a, ih.succ_product,
      fun s a ps => ih.succ_productRest s ps a, ih.succ_unary, fun s f ps => ih.succ_calls s ps f,
      ih.succ_args⟩

lemma expression_reads (searching : Bool) (ps : List Piece) : Reads ps (expression searching ps) :=
  (exprReaders _).expr searching ps

/-! ### Heads and simple lines -/

section

variable {α β : Type} {ps rest : List Piece}

/-- The pieces are plain up to the end of a line. -/
def Ended (ps : List Piece) : Prop := ∃ e rest, Past ps (e :: rest) ∧ e.lexeme = .lineEnd

/-- A reader that reads to the end of the line, or fails. -/
structure ReadsLine (ps : List Piece) (r : Except ReadError α) : Prop where
  tells : Tells ps r
  ended : ∀ a, r = .ok a → Ended ps

lemma ReadsLine.mono {qs : List Piece} {r : Except ReadError α} (h : ReadsLine qs r)
    (hqs : Past ps qs) : ReadsLine ps r := by
  refine ⟨h.tells.mono hqs.subset, fun a ha => ?_⟩
  obtain ⟨e, rest, hpast, he⟩ := h.ended a ha
  exact ⟨e, rest, hqs.trans hpast, he⟩

lemma readsLine_error {r : Except ReadError α} (h : Tells ps r) (herror : ∀ a, r ≠ .ok a) :
    ReadsLine ps r :=
  ⟨h, fun a ha => absurd ha (herror a)⟩

lemma stuck_ne_ok (ps : List Piece) (a : α) : stuck ps ≠ .ok a := by
  unfold stuck
  split <;> simp

lemma readsLine_stuck (h : Past ps rest) : ReadsLine ps (stuck rest : Except ReadError α) :=
  readsLine_error ((tells_stuck rest).mono h.subset) (stuck_ne_ok rest)

lemma readsLine_missing (sign : String) (ps : List Piece) :
    ReadsLine ps (missing sign ps : Except ReadError α) := by
  refine readsLine_error (tells_missing sign ps) fun a => ?_
  unfold missing
  split
  · exact stuck_ne_ok _ a
  · simp

lemma Reads.bindLine {r : Except ReadError (α × List Piece)}
    {f : α × List Piece → Except ReadError β} (h : Reads ps r)
    (hf : ∀ a rest, Past ps rest → ReadsLine ps (f (a, rest))) : ReadsLine ps (r >>= f) := by
  rcases r with e | ⟨a, rest⟩
  · refine readsLine_error (fun e' he' => ?_) fun x hx => nomatch hx
    obtain rfl := Except.error.inj he'
    exact h.tells e rfl
  · exact hf a rest (h.past a rest rfl)

lemma ReadsLine.map {r : Except ReadError α} (h : ReadsLine ps r) (f : α → β) :
    ReadsLine ps (r.map f) := by
  rcases r with e | a
  · refine readsLine_error (fun e' he' => ?_) fun x hx => nomatch hx
    obtain rfl := Except.error.inj he'
    exact h.tells e rfl
  · exact ⟨tells_ok _, fun _ _ => h.ended a rfl⟩

lemma atEnd_readsLine (a : α) (ps : List Piece) : ReadsLine ps (atEnd a ps) := by
  unfold atEnd
  split
  · next rest hafter =>
    refine ⟨tells_ok a, fun _ _ => ?_⟩
    rcases ps with _ | ⟨p, ps⟩
    · cases hafter
    · rw [after?] at hafter
      split_ifs at hafter with hp
      exact ⟨p, ps, .refl _, hp⟩
  · exact readsLine_stuck (.refl _)

lemma needColon_readsLine (a : α) (ps : List Piece) : ReadsLine ps (needColon a ps) := by
  unfold needColon
  split
  · next rest hafter => exact (atEnd_readsLine a rest).mono (past_after? (isPlain_sign _) hafter)
  · exact readsLine_missing _ _

lemma colon_readsLine (searching : Bool) (a : α) (ps : List Piece) :
    ReadsLine ps (colon searching a ps) := by
  unfold colon
  split
  · next rest hafter => exact (atEnd_readsLine a rest).mono (past_after? (isPlain_sign _) hafter)
  · split
    · exact needColon_readsLine a ps
    · exact readsLine_stuck (.refl _)

lemma readCondition_readsLine (searching : Bool) (ps : List Piece) :
    ReadsLine ps (readCondition searching ps) :=
  (expression_reads searching ps).bindLine fun e rest hrest =>
    (colon_readsLine searching e rest).mono hrest

lemma readKind_readsLine (searching : Bool) (ps : List Piece) :
    ReadsLine ps (readKind searching ps) := by
  unfold readKind
  split
  · exact needColon_readsLine none ps
  · exact (readCondition_readsLine searching ps).map some

lemma refuseTarget_readsLine (searching : Bool) (ps : List Piece) :
    ReadsLine ps (refuseTarget searching ps : Except ReadError α) := by
  unfold refuseTarget
  split
  · refine (expression_reads searching ps).bindLine fun e rest hrest => ?_
    simp only
    split
    · exact readsLine_error (tells_error rfl _) (by simp)
    · exact readsLine_stuck (.refl _)
  · exact readsLine_stuck (.refl _)

lemma refuseTarget_ne_ok (searching : Bool) (ps : List Piece) (a : α) :
    refuseTarget searching ps ≠ .ok a := by
  unfold refuseTarget
  split
  · cases expression searching ps with
    | error e => simp [bind, Except.bind]
    | ok x =>
      simp only [bind, Except.bind]
      split
      · simp
      · exact stuck_ne_ok ps a
  · exact stuck_ne_ok ps a

lemma past_target? {x : String} (h : target? ps = some (x, rest)) : Past ps rest := by
  unfold target? at h
  split at h
  · cases h
  · next p qs =>
    split at h
    · next y hy =>
      split_ifs at h
      obtain ⟨-, rfl⟩ := Prod.mk.inj (Option.some.inj h)
      exact past_cons (hy ▸ isPlain_name y) qs
    · cases h

lemma readLoop_readsLine (searching : Bool) (ps : List Piece) :
    ReadsLine ps (readLoop searching ps) := by
  unfold readLoop
  split
  · exact refuseTarget_readsLine searching ps
  · next x rest htarget =>
    split
    · exact refuseTarget_readsLine searching ps
    · next source hin =>
      have hpast := (past_target? htarget).trans (past_after? (isPlain_name _) hin)
      refine ((expression_reads searching source).mono hpast).bindLine fun e rest hrest => ?_
      exact (colon_readsLine false (x, e) rest).mono hrest

lemma past_plainParams (ps : List Piece) : Past ps (plainParams ps).2 := by
  fun_induction plainParams ps with
  | case1 p q ps x hx hreserved => exact .refl _
  | case2 p q ps x hx hreserved hcomma r ih =>
    have hp : p.lexeme.IsPlain := hx ▸ isPlain_name x
    have hq : q.lexeme.IsPlain := hcomma ▸ isPlain_sign _
    exact ((past_cons hp _).trans (past_cons hq _)).trans ih
  | case3 p q ps x hx hreserved hcomma hclose => exact past_cons (hx ▸ isPlain_name x) _
  | case4 => exact .refl _
  | case5 => exact .refl _
  | case6 => exact .refl _

lemma readSignature_readsLine (searching : Bool) (ps : List Piece) :
    ReadsLine ps (readSignature searching ps) := by
  unfold readSignature
  split
  · exact readsLine_stuck (.refl _)
  · next f rest htarget =>
    have hname := past_target? htarget
    split
    · exact (readsLine_missing _ rest).mono hname
    · next inner hopen =>
      have hpast := hname.trans (past_after? (isPlain_sign _) hopen)
      have hparams := hpast.trans (past_plainParams inner)
      simp only
      split
      · next after hclose =>
        exact (needColon_readsLine _ after).mono
          (hparams.trans (past_after? (isPlain_sign _) hclose))
      · split
        · exact readsLine_error (tells_error rfl _) (by simp)
        · cases htarget' : target? (plainParams inner).2 with
          | none => exact readsLine_stuck hparams
          | some x => exact readsLine_stuck (hparams.trans (past_target? htarget'))

/-- What settles a line is what it is read as without searching, or fails as reading does. -/
lemma settled_readsLine {read : Bool → Except ReadError α} (h : ∀ s, ReadsLine ps (read s)) :
    ReadsLine ps (settled read) := by
  unfold settled
  split
  · next a ha => exact ⟨tells_ok a, fun _ _ => (h false).ended a ha⟩
  · next e he =>
    have hfirst := (h false).tells e he
    split
    · split
      · refine readsLine_error (fun e' he' => ?_) (by simp)
        obtain rfl := Except.error.inj he'
        exact hfirst
      · next found hfound =>
        refine readsLine_error (fun e' he' => ?_) (by simp)
        obtain rfl := Except.error.inj he'
        exact (h true).tells _ hfound
    · refine readsLine_error (fun e' he' => ?_) (by simp)
      obtain rfl := Except.error.inj he'
      exact hfirst

lemma settled_eq_ok {read : Bool → Except ReadError α} {a : α} (h : settled read = .ok a) :
    read false = .ok a := by
  unfold settled at h
  split at h
  · next b hb => rw [hb, Except.ok.inj h]
  · split at h
    · split at h <;> cases h
    · cases h

lemma readSimple_readsLine (searching : Bool) (l : Line) :
    ReadsLine l.pieces (readSimple searching l) := by
  unfold readSimple
  split
  · next rest hafter => exact (atEnd_readsLine _ rest).mono (past_after? (isPlain_name _) hafter)
  · next rest hafter _ => exact (atEnd_readsLine _ rest).mono (past_after? (isPlain_name _) hafter)
  · next rest hafter _ _ =>
    exact (atEnd_readsLine _ rest).mono (past_after? (isPlain_name _) hafter)
  · next rest hafter _ _ _ =>
    have hpast := past_after? (isPlain_name _) hafter
    refine ReadsLine.mono ?_ hpast
    split
    · next hend =>
      obtain ⟨_, hend⟩ := Option.isSome_iff_exists.mp hend
      have hline := (atEnd_readsLine () rest).ended () (by rw [atEnd, hend])
      exact ⟨tells_ok _, fun _ _ => hline⟩
    · exact (expression_reads searching rest).bindLine fun e rest' hrest =>
        (atEnd_readsLine _ rest').mono hrest
  · -- an assignment or an expression
    split
    · next x _ _ _ _ _ _ ps hpieces =>
      rw [hpieces]
      split
      · exact refuseTarget_readsLine searching _
      · refine ReadsLine.mono ?_
          ((past_cons (isPlain_name x) _).trans (past_cons (isPlain_sign "=") ps))
        exact (expression_reads searching ps).bindLine fun e rest' hrest =>
          (atEnd_readsLine _ rest').mono hrest
    · exact (expression_reads searching l.pieces).bindLine fun e rest' hrest =>
        (atEnd_readsLine _ rest').mono hrest

/-! ### Words that begin no expression -/

lemma clauseWords_reserved : ∀ word ∈ clauseWords,
    isReserved word = true ∧ constantOf? word = none ∧
      word ∉ ["not", "pass", "break", "continue", "return"] := by
  simp only [clauseWords, List.mem_cons, List.not_mem_nil, or_false]
  rintro word (rfl | rfl | rfl | rfl) <;> decide

lemma expression_clauseWord {p : Piece} {word : String} (hword : word ∈ clauseWords)
    (hp : p.lexeme = .name word) (searching : Bool) (rest : List Piece) (x : Expr × List Piece) :
    expression searching (p :: rest) ≠ .ok x := by
  obtain ⟨hreserved, hconstant, hother⟩ := clauseWords_reserved word hword
  have hnot : word ≠ "not" := fun h => hother (by simp [h])
  have hstuck : readAtom (p :: rest) = stuck (p :: rest) := by
    simp only [readAtom, hp, hconstant, hreserved, if_true]
  obtain ⟨e, he⟩ : ∃ e, readAtom (p :: rest) = .error e := by
    cases h : readAtom (p :: rest) with
    | error e => exact ⟨e, rfl⟩
    | ok a => exact absurd (hstuck.symm.trans h) (stuck_ne_ok _ a)
  have hfuel : 10 * (p :: rest).length + 10 = 10 * rest.length + 13 + 7 := by
    rw [List.length_cons]
    omega
  rw [expression, hfuel, readExpr, readOr, readAnd, readNot, readSum, readProduct, readUnary]
  simp [after?, hp, hnot, he, bind, Except.bind]

lemma readSimple_clauseWord {l : Line} {word : String} (hword : word ∈ clauseWords)
    (hl : (l.after? word).isSome = true) (searching : Bool) (s : Stmt) :
    readSimple searching l ≠ .ok s := by
  obtain ⟨hreserved, -, hother⟩ := clauseWords_reserved word hword
  rcases hpieces : l.pieces with _ | ⟨p, rest⟩
  · simp [Line.after?, hpieces, after?] at hl
  have hp : p.lexeme = .name word := by
    by_contra hne
    simp [Line.after?, hpieces, after?, hne] at hl
  have hafter {other : String} (hmem : other ∈ ["not", "pass", "break", "continue", "return"]) :
      l.after? other = none := by
    have hne : word ≠ other := by
      rintro rfl
      exact hother hmem
    simp [Line.after?, hpieces, after?, hp, hne]
  obtain ⟨e, he⟩ : ∃ e, expression searching (p :: rest) = .error e := by
    cases h : expression searching (p :: rest) with
    | error e => exact ⟨e, rfl⟩
    | ok x => exact absurd h (expression_clauseWord hword hp searching rest x)
  intro h
  rw [readSimple, hafter (by decide), hafter (by decide), hafter (by decide),
    hafter (by decide)] at h
  simp only at h
  split at h
  · next x _ _ _ _ _ _ ps hline =>
    obtain ⟨rfl, -⟩ := List.cons.inj (hpieces.symm.trans hline)
    obtain rfl := Lexeme.name.inj hp
    rw [if_pos hreserved] at h
    exact refuseTarget_ne_ok searching _ s h
  · rw [hpieces, he] at h
    cases h

end

end Flowline.Script
