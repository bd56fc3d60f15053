import Mathlib.Data.List.TakeWhile
import Mathlib.Tactic.Lemma
import Flowline.Proofs.Lexing

/-!
The grammar of numbers.

`NumberLiteral` says how a number of a program is written: digits with single underscores between
them, a point, an exponent, and no zeros in front of a whole number. The reader of numbers takes out
the underscores before it looks for the parts, and the cutter goes through the text part by part. What
the reader accepts follows the grammar, what follows the grammar is gone through to its end, and what
was cut off is what the reader is given.
-/

namespace Flowline.Script

open Text

/-! ### How numbers are written -/

/-- Digits, with single underscores between some of them. -/
inductive DigitPart : List Char → Prop
  | single {c : Char} (hc : c.isDigit = true) : DigitPart [c]
  | digit {c : Char} {cs : List Char} (hc : c.isDigit = true) (h : DigitPart cs) :
      DigitPart (c :: cs)
  | underscore {c : Char} {cs : List Char} (hc : c.isDigit = true) (h : DigitPart cs) :
      DigitPart (c :: '_' :: cs)

inductive PointPart : List Char → Prop
  | absent : PointPart []
  | point : PointPart ['.']
  | digits {ds : List Char} (h : DigitPart ds) : PointPart ('.' :: ds)

def signTexts : List (List Char) := [[], ['+'], ['-']]

inductive ExponentPart : List Char → Prop
  | absent : ExponentPart []
  | power {e : Char} {sign ds : List Char} (he : e = 'e' ∨ e = 'E') (hsign : sign ∈ signTexts)
      (h : DigitPart ds) : ExponentPart (e :: (sign ++ ds))

/-- A decimal number without a sign. -/
inductive IsDecimal : List Char → Prop
  | whole {ws ps es : List Char} (hw : DigitPart ws) (hp : PointPart ps) (he : ExponentPart es) :
      IsDecimal (ws ++ (ps ++ es))
  | fraction {ds es : List Char} (h : DigitPart ds) (he : ExponentPart es) :
      IsDecimal ('.' :: (ds ++ es))

def IsWhole (cs : List Char) : Prop := ∀ c ∈ cs, c.isDigit = true ∨ c = '_'

/-- A zero in front has nothing but zeros after it. -/
def PlainZeros (cs : List Char) : Prop := cs.head? = some '0' → ∀ c ∈ cs, c = '0' ∨ c = '_'

/-- A number as a program may hold it: decimal, and without zeros in front if it is whole. Numbers to
another base and imaginary ones have a letter that no number of a source has. -/
structure NumberLiteral (cs : List Char) : Prop where
  decimal : IsDecimal cs
  zeros : IsWhole cs → PlainZeros cs

def Number.signed (negative : Bool) : Number → Numeral
  | whole n => .finite negative n 0
  | real (.finite _ mantissa exponent) => .finite negative mantissa exponent
  | real x => x

/-! ### The characters of numbers -/

lemma DigitPart.head {ds : List Char} (h : DigitPart ds) :
    ∃ c cs, ds = c :: cs ∧ c.isDigit = true := by
  cases h with
  | single hc => exact ⟨_, _, rfl, hc⟩
  | digit hc h => exact ⟨_, _, rfl, hc⟩
  | underscore hc h => exact ⟨_, _, rfl, hc⟩

lemma DigitPart.isWhole {ds : List Char} (h : DigitPart ds) : IsWhole ds := by
  unfold IsWhole
  induction h with
  | single hc => simpa using .inl hc
  | digit hc h ih => simpa [hc] using ih
  | underscore hc h ih => simpa [hc] using ih

section

variable {cs : List Char}

def InNumber (c : Char) : Prop := c.isDigit = true ∨ c ∈ ['_', '.', 'e', 'E', '+', '-']

lemma InNumber.ascii {c : Char} (h : InNumber c) : c.toNat < 128 := by
  have hothers : ∀ d ∈ ['_', '.', 'e', 'E', '+', '-'], d.toNat < 128 :=
    forall_mem_of_all (by decide)
  rcases h with hdigit | hother
  · exact ascii_of_isDigit hdigit
  · exact hothers c hother

lemma DigitPart.chars (h : DigitPart cs) : ∀ c ∈ cs, InNumber c := by
  intro c hc
  rcases h.isWhole c hc with hdigit | rfl
  · exact .inl hdigit
  · exact .inr (by decide)

lemma chars_of_mem_signTexts {sign : List Char} (h : sign ∈ signTexts) :
    ∀ c ∈ sign, InNumber c := by
  simp only [signTexts, List.mem_cons, List.not_mem_nil, or_false] at h
  rcases h with rfl | rfl | rfl
  · simp
  · exact List.forall_mem_singleton.mpr (.inr (by decide))
  · exact List.forall_mem_singleton.mpr (.inr (by decide))

lemma ExponentPart.chars (h : ExponentPart cs) : ∀ c ∈ cs, InNumber c := by
  cases h with
  | absent => simp
  | power he hsign h =>
    simp only [List.forall_mem_cons, List.forall_mem_append]
    refine ⟨.inr ?_, chars_of_mem_signTexts hsign, h.chars⟩
    rcases he with rfl | rfl <;> decide

lemma PointPart.chars (h : PointPart cs) : ∀ c ∈ cs, InNumber c := by
  cases h with
  | absent => simp
  | point => exact List.forall_mem_singleton.mpr (.inr (by decide))
  | digits h => exact List.forall_mem_cons.mpr ⟨.inr (by decide), h.chars⟩

lemma IsDecimal.chars (h : IsDecimal cs) : ∀ c ∈ cs, InNumber c := by
  cases h with
  | whole hw hp he =>
    simp only [List.forall_mem_append]
    exact ⟨hw.chars, hp.chars, he.chars⟩
  | fraction h he =>
    simp only [List.forall_mem_cons, List.forall_mem_append]
    exact ⟨.inr (by decide), h.chars, he.chars⟩

lemma IsDecimal.head (h : IsDecimal cs) :
    ∃ c rest, cs = c :: rest ∧ (c.isDigit = true ∨ c = '.') := by
  cases h with
  | whole hw hp he =>
    obtain ⟨c, ws, rfl, hc⟩ := hw.head
    exact ⟨c, _, rfl, .inl hc⟩
  | fraction h he => exact ⟨'.', _, rfl, .inr rfl⟩

end

/-! ### Taking the underscores out -/

open Numeral (dropUnderscores)

def Apart (rest : List Char) : Prop := ∀ c ∈ rest.head?, c.isDigit = false ∧ c ≠ '_'

lemma apart_nil : Apart [] := by simp [Apart]

lemma apart_cons {c : Char} (hc : c.isDigit = false) (hunder : c ≠ '_') (rest : List Char) :
    Apart (c :: rest) := by
  simp [Apart, hc, hunder]

lemma dropUnderscores_cons {c : Char} (hc : c ≠ '_') (b : Bool) (cs : List Char) :
    dropUnderscores b (c :: cs) = (dropUnderscores c.isDigit cs).map (c :: ·) := by
  rw [dropUnderscores, if_neg hc]

lemma dropUnderscores_eq_filter {b : Bool} {cs ds : List Char}
    (h : dropUnderscores b cs = some ds) : ds = cs.filter (· != '_') := by
  induction cs generalizing b ds with
  | nil => simpa [dropUnderscores] using h.symm
  | cons c cs ih =>
    by_cases hc : c = '_'
    · subst hc
      rw [dropUnderscores, if_pos rfl] at h
      split at h
      · simpa using ih h
      · cases h
    · rw [dropUnderscores_cons hc] at h
      obtain ⟨es, hes, rfl⟩ := Option.map_eq_some_iff.mp h
      simp [hc, ih hes]

lemma head?_dropUnderscores {cs ds : List Char} (h : dropUnderscores false cs = some ds) :
    ds.head? = cs.head? := by
  cases cs with
  | nil => rw [dropUnderscores_eq_filter h]; rfl
  | cons c cs =>
    by_cases hc : c = '_'
    · simp [dropUnderscores, hc] at h
    · rw [dropUnderscores_cons hc] at h
      obtain ⟨es, -, rfl⟩ := Option.map_eq_some_iff.mp h
      rfl

def Continues (row : List Char) : Prop :=
  row = [] ∨ DigitPart row ∨ ∃ ds, row = '_' :: ds ∧ DigitPart ds

lemma Continues.digitPart {row : List Char} (h : Continues row) {c : Char}
    (hc : c.isDigit = true) : DigitPart (c :: row) := by
  rcases h with rfl | h | ⟨ds, rfl, h⟩
  · exact .single hc
  · exact .digit hc h
  · exact .underscore hc h

/-- A text that has its underscores in place begins with a row of digits, which may be empty, and goes
on with something else. After a digit the row may begin with an underscore. -/
lemma exists_rowAfter {b : Bool} {cs ds : List Char} (h : dropUnderscores b cs = some ds) :
    ∃ row rest es, cs = row ++ rest ∧ (if b then Continues row else row = [] ∨ DigitPart row) ∧
      Apart rest ∧ dropUnderscores false rest = some es ∧
      ds = row.filter Char.isDigit ++ es := by
  induction cs generalizing b ds with
  | nil =>
    refine ⟨[], [], [], rfl, ?_, apart_nil, rfl, ?_⟩
    · split <;> exact .inl rfl
    · simpa [dropUnderscores] using h.symm
  | cons c cs ih =>
    by_cases hunder : c = '_'
    · -- an underscore stands between two digits
      subst hunder
      rw [dropUnderscores, if_pos rfl] at h
      split at h
      case isFalse => cases h
      next hplace =>
        obtain ⟨rfl, hdigit⟩ : b = true ∧ cs.head?.any Char.isDigit = true := by
          simpa using hplace
        obtain ⟨row, rest, es, rfl, hrun, hrest, hes, rfl⟩ := ih h
        have hpart : DigitPart row := by
          rcases hrun with rfl | hrun
          · cases rest with
            | nil => simp at hdigit
            | cons d rest =>
              have := (hrest d rfl).1
              simp [this] at hdigit
          · exact hrun
        exact ⟨'_' :: row, rest, es, rfl, .inr (.inr ⟨row, rfl, hpart⟩), hrest, hes, rfl⟩
    · by_cases hdigit : c.isDigit = true
      · -- a digit goes on with the row
        rw [dropUnderscores_cons hunder, hdigit] at h
        obtain ⟨ds, hds, rfl⟩ := Option.map_eq_some_iff.mp h
        obtain ⟨row, rest, es, rfl, hrun, hrest, hes, rfl⟩ := ih hds
        have hpart : DigitPart (c :: row) := hrun.digitPart hdigit
        refine ⟨c :: row, rest, es, rfl, ?_, hrest, hes, by simp [hdigit]⟩
        split
        · exact .inr (.inl hpart)
        · exact .inr hpart
      · -- any other character ends the row
        have hdigit : c.isDigit = false := by simpa using hdigit
        refine ⟨[], c :: cs, ds, rfl, ?_, apart_cons hdigit hunder cs, ?_, rfl⟩
        · split <;> exact .inl rfl
        · rw [dropUnderscores_cons hunder] at h ⊢
          exact h

lemma exists_row {cs ds : List Char} (h : dropUnderscores false cs = some ds) :
    ∃ row rest es, cs = row ++ rest ∧ (row = [] ∨ DigitPart row) ∧ Apart rest ∧
      dropUnderscores false rest = some es ∧ ds = row.filter Char.isDigit ++ es := by
  simpa using exists_rowAfter h

/-- A text without a sign or with one, after the underscores were taken out. -/
lemma exists_sign {cs ds : List Char} (h : dropUnderscores false cs = some ds) :
    ∃ sign rest, cs = sign ++ rest ∧ sign ∈ signTexts ∧
      dropUnderscores false rest = some (Numeral.splitSign ds).2 ∧
      (Numeral.splitSign ds).1 = decide (sign = ['-']) ∧
      Numeral.splitSign cs = ((Numeral.splitSign ds).1, rest) := by
  have hhead := head?_dropUnderscores h
  cases cs with
  | nil =>
    obtain rfl : ds = [] := by simpa [dropUnderscores] using h.symm
    exact ⟨[], [], rfl, by decide, rfl, rfl, rfl⟩
  | cons c cs =>
    by_cases hminus : c = '-'
    · subst hminus
      rw [dropUnderscores_cons (by decide)] at h
      obtain ⟨es, hes, rfl⟩ := Option.map_eq_some_iff.mp h
      exact ⟨['-'], cs, rfl, by decide, hes, rfl, rfl⟩
    by_cases hplus : c = '+'
    · subst hplus
      rw [dropUnderscores_cons (by decide)] at h
      obtain ⟨es, hes, rfl⟩ := Option.map_eq_some_iff.mp h
      exact ⟨['+'], cs, rfl, by decide, hes, rfl, rfl⟩
    · -- no sign in front
      obtain ⟨es, rfl⟩ : ∃ es, ds = c :: es := by
        cases ds with
        | nil => simp at hhead
        | cons d es => exact ⟨es, by simpa using hhead⟩
      have hsplit (es : List Char) : Numeral.splitSign (c :: es) = (false, c :: es) := by
        simp [Numeral.splitSign, hminus, hplus]
      rw [hsplit, hsplit]
      exact ⟨[], c :: cs, rfl, by decide, h, rfl, rfl⟩

/-! ### What the readers accept -/

/-- The first digits of a text without underscores are those of the row in front. -/
lemma takeWhile_row (row : List Char) {rest es : List Char} (hrest : Apart rest)
    (hes : dropUnderscores false rest = some es) :
    (row.filter Char.isDigit ++ es).takeWhile Char.isDigit = row.filter Char.isDigit ∧
      (row.filter Char.isDigit ++ es).dropWhile Char.isDigit = es := by
  have hdigits : ∀ c ∈ row.filter Char.isDigit, c.isDigit = true :=
    fun c hc => (List.mem_filter.mp hc).2
  have hhead := head?_dropUnderscores hes
  have hstop : es.takeWhile Char.isDigit = [] ∧ es.dropWhile Char.isDigit = es := by
    cases es with
    | nil => exact ⟨rfl, rfl⟩
    | cons c es =>
      have hc : c.isDigit = false := (hrest c (by simpa using hhead.symm)).1
      exact ⟨List.takeWhile_cons_of_neg (by simp [hc]), List.dropWhile_cons_of_neg (by simp [hc])⟩
  rw [List.takeWhile_append_of_pos hdigits, List.dropWhile_append_of_pos hdigits, hstop.1, hstop.2,
    List.append_nil]
  exact ⟨rfl, rfl⟩

/-- A text that is nothing but digits without its underscores is a row of digits. -/
lemma digitPart_of_all {cs ds : List Char} (h : dropUnderscores false cs = some ds) (hne : ds ≠ [])
    (hall : ∀ c ∈ ds, c.isDigit = true) : DigitPart cs := by
  obtain ⟨row, rest, es, rfl, hrow, hrest, hes, rfl⟩ := exists_row h
  have hes' : es = [] := by
    rw [← (takeWhile_row row hrest hes).2, List.dropWhile_eq_nil_iff]
    exact hall
  subst hes'
  obtain rfl : rest = [] := by
    have := head?_dropUnderscores hes
    simpa [eq_comm] using this
  rcases hrow with rfl | hrow
  · simp at hne
  · simpa using hrow

lemma exponentPart_of_exponent? {cs ds : List Char} {e : Int}
    (h : dropUnderscores false cs = some ds) (he : Numeral.exponent? ds = some e) :
    ExponentPart cs := by
  have hhead := head?_dropUnderscores h
  cases cs with
  | nil => exact .absent
  | cons c cs =>
    have hunder : c ≠ '_' := by
      rintro rfl
      simp [dropUnderscores] at h
    rw [dropUnderscores_cons hunder] at h
    obtain ⟨es, hes, rfl⟩ := Option.map_eq_some_iff.mp h
    rw [Numeral.exponent?] at he
    split at he
    case isFalse => cases he
    next hletter =>
      have hletter : c = 'e' ∨ c = 'E' := by simpa using hletter
      have hdigit : c.isDigit = false := by rcases hletter with rfl | rfl <;> rfl
      rw [hdigit] at hes
      -- the letter is no digit, so no underscore follows it
      obtain ⟨sign, rest, rfl, hsign, hrest, -, -⟩ := exists_sign hes
      simp only at he
      split at he
      case isFalse => cases he
      next hds =>
        obtain ⟨hne, hall⟩ : (Numeral.splitSign es).2 ≠ [] ∧
            ∀ c ∈ (Numeral.splitSign es).2, c.isDigit = true := by
          simpa using hds
        exact .power hletter hsign (digitPart_of_all hrest hne hall)

/-- A text that is read as a decimal number without its underscores has the shape of one. -/
lemma isDecimal_of_decimal? {negative : Bool} {cs ds : List Char} {x : Numeral}
    (h : dropUnderscores false cs = some ds) (hx : Numeral.decimal? negative ds = some x) :
    IsDecimal cs := by
  obtain ⟨row, rest, es, rfl, hrow, hrest, hes, rfl⟩ := exists_row h
  obtain ⟨htake, hdrop⟩ := takeWhile_row row hrest hes
  unfold Numeral.decimal? at hx
  simp only [htake, hdrop] at hx
  by_cases hpoint : ∃ after, rest = '.' :: after
  · -- a point after the first digits
    obtain ⟨after, rfl⟩ := hpoint
    rw [dropUnderscores_cons (by decide)] at hes
    obtain ⟨fs, hfs, rfl⟩ := Option.map_eq_some_iff.mp hes
    obtain ⟨decimals, exponent, gs, rfl, hdecimals, hexponent, hgs, rfl⟩ := exists_row hfs
    obtain ⟨htake, hdrop⟩ := takeWhile_row decimals hexponent hgs
    simp only [htake, hdrop] at hx
    split at hx
    case isTrue => cases hx
    next hsome =>
      obtain ⟨e, he, -⟩ := Option.map_eq_some_iff.mp hx
      have hexp := exponentPart_of_exponent? hgs he
      rcases hrow with rfl | hrow
      · rcases hdecimals with rfl | hdecimals
        · simp at hsome
        · exact .fraction hdecimals hexp
      · have hpoint : PointPart ('.' :: decimals) := by
          rcases hdecimals with rfl | hdecimals
          · exact .point
          · exact .digits hdecimals
        exact .whole hrow hpoint hexp
  · -- no point
    have hes' : ∀ after, es ≠ '.' :: after := by
      rintro after rfl
      have hhead := head?_dropUnderscores hes
      cases rest with
      | nil => simp at hhead
      | cons c rest =>
        obtain rfl : '.' = c := by simpa using hhead
        exact hpoint ⟨rest, rfl⟩
    split at hx
    · exact absurd rfl (hes' _)
    · simp only [List.isEmpty_nil, Bool.and_true] at hx
      split at hx
      case isTrue => cases hx
      next hsome =>
        obtain ⟨e, he, -⟩ := Option.map_eq_some_iff.mp hx
        rcases hrow with rfl | hrow
        · simp at hsome
        · have hpoint : PointPart [] := .absent
          exact .whole hrow hpoint (exponentPart_of_exponent? hes he)

/-- The sign of a decimal number is read off its front and changes nothing else. -/
lemma decimal?_sign {negative : Bool} {ds : List Char} {x : Numeral}
    (h : Numeral.decimal? negative ds = some x) :
    ∃ mantissa exponent, x = .finite negative mantissa exponent ∧
      ∀ b, Numeral.decimal? b ds = some (.finite b mantissa exponent) := by
  unfold Numeral.decimal? at h ⊢
  simp only at h ⊢
  split_ifs at h with hnone
  obtain ⟨e, he, rfl⟩ := Option.map_eq_some_iff.mp h
  exact ⟨_, _, rfl, fun b => by rw [if_neg hnone, he]; rfl⟩

lemma decimal?_of_all (negative : Bool) {ds : List Char} (hne : ds ≠ [])
    (hall : ∀ c ∈ ds, c.isDigit = true) :
    Numeral.decimal? negative ds = some (.finite negative (Numeral.digitsValue ds) 0) := by
  have htake : ds.takeWhile Char.isDigit = ds := List.takeWhile_eq_self_iff.mpr hall
  have hdrop : ds.dropWhile Char.isDigit = [] := List.dropWhile_eq_nil_iff.mpr hall
  simp [Numeral.decimal?, htake, hdrop, hne, Numeral.exponent?]

section

variable {cs ds : List Char} (h : dropUnderscores false cs = some ds)

include h

lemma isWhole_iff : IsWhole cs ↔ ∀ c ∈ ds, c.isDigit = true := by
  rw [dropUnderscores_eq_filter h]
  simp only [IsWhole, List.mem_filter, bne_iff_ne, ne_eq, and_imp]
  refine forall₂_congr fun c _ => ?_
  rw [or_comm, or_iff_not_imp_left]

lemma plainZeros_iff : PlainZeros cs ↔ hasLeadingZero ds = false := by
  have hhead := head?_dropUnderscores h
  have hzeros : (∀ c ∈ cs, c = '0' ∨ c = '_') ↔ ∀ c ∈ ds, c = '0' := by
    rw [dropUnderscores_eq_filter h]
    simp only [List.mem_filter, bne_iff_ne, ne_eq, and_imp]
    refine forall₂_congr fun c _ => ?_
    rw [or_comm, or_iff_not_imp_left]
  rw [PlainZeros, hzeros, ← hhead, hasLeadingZero]
  simp

/-- A number of a source is a number of a program, unless it has zeros in front. -/
lemma Number.read?_of_decimal? {negative : Bool} {x : Numeral}
    (hx : Numeral.decimal? negative ds = some x) (hzeros : IsWhole cs → PlainZeros cs) :
    ∃ n, Number.read? cs = some n ∧ n.signed negative = x := by
  obtain ⟨mantissa, exponent, rfl, hsign⟩ := decimal?_sign hx
  have hne : ds ≠ [] := by
    rintro rfl
    cases hx
  rw [Number.read?, h]
  simp only [Option.bind_eq_bind, Option.bind_some]
  by_cases hall : ∀ c ∈ ds, c.isDigit = true
  · have hzero := (plainZeros_iff h).mp (hzeros ((isWhole_iff h).mpr hall))
    rw [decimal?_of_all negative hne hall] at hx
    obtain ⟨rfl, rfl⟩ : Numeral.digitsValue ds = mantissa ∧ 0 = exponent := by simpa using hx
    exact ⟨.whole (Numeral.digitsValue ds), by simpa [hne, hzero] using hall, rfl⟩
  · refine ⟨.real (.finite false mantissa exponent), ?_, rfl⟩
    rw [if_neg (by simpa [hne] using hall), hsign]
    rfl

end

lemma numberLiteral_of_read? {cs : List Char} {n : Number} (h : Number.read? cs = some n) :
    NumberLiteral cs := by
  rw [Number.read?] at h
  obtain ⟨ds, hds, hn⟩ := Option.bind_eq_some_iff.mp h
  split at hn
  · next hall =>
    obtain ⟨hne, hall⟩ : ds ≠ [] ∧ ∀ c ∈ ds, c.isDigit = true := by simpa using hall
    split at hn
    case isTrue => cases hn
    next hzero =>
      refine ⟨isDecimal_of_decimal? hds (decimal?_of_all false hne hall), fun _ => ?_⟩
      exact (plainZeros_iff hds).mpr (by simpa using hzero)
  · next hnot =>
    obtain ⟨x, hx, -⟩ := Option.map_eq_some_iff.mp hn
    refine ⟨isDecimal_of_decimal? hds hx, fun hwhole => absurd ?_ hnot⟩
    have hne : ds ≠ [] := by
      rintro rfl
      cases hx
    simpa [hne] using (isWhole_iff hds).mp hwhole

/-! ### Cutting a number off a text -/

lemma digitRun_digit {c : Char} (hc : c.isDigit = true) (cs : List Char) :
    digitRun (c :: cs) = (digitRun cs).map fun r => (c :: r.1, r.2) := by
  rw [digitRun, hc, Bool.true_or, if_pos rfl]

lemma digitRun_underscore {c : Char} (hc : c.isDigit = true) (cs : List Char) :
    digitRun ('_' :: c :: cs) = (digitRun (c :: cs)).map fun r => ('_' :: r.1, r.2) := by
  rw [digitRun, if_pos (by simp [hc])]

lemma digitRun_of_digitPart {ds rest : List Char} (h : DigitPart ds) (hrest : Apart rest) :
    digitRun (ds ++ rest) = some (ds, rest) := by
  have hstop : digitRun rest = some ([], rest) := by
    cases rest with
    | nil => rfl
    | cons c rest =>
      obtain ⟨hdigit, hunder⟩ := hrest c rfl
      simp [digitRun, hdigit, hunder]
  induction h with
  | single hc => rw [List.singleton_append, digitRun_digit hc, hstop]; rfl
  | digit hc h ih => rw [List.cons_append, digitRun_digit hc, ih]; rfl
  | underscore hc h ih =>
    obtain ⟨d, ds, rfl, hd⟩ := h.head
    rw [List.cons_append] at ih
    rw [List.cons_append, List.cons_append, List.cons_append, digitRun_digit hc,
      digitRun_underscore hd, ih]
    rfl

lemma digitRun_tail {c : Char} {cs rest : List Char} (h : DigitPart (c :: cs)) (hrest : Apart rest) :
    digitRun (cs ++ rest) = some (cs, rest) := by
  have hc : c.isDigit = true := by
    obtain ⟨d, ds, hds, hd⟩ := h.head
    rwa [(List.cons.inj hds).1]
  have hrun := digitRun_of_digitPart h hrest
  rw [List.cons_append, digitRun_digit hc] at hrun
  obtain ⟨r, hr, heq⟩ := Option.map_eq_some_iff.mp hrun
  obtain ⟨rfl, rfl⟩ : r.1 = cs ∧ r.2 = rest := by simpa using heq
  exact hr

lemma ExponentPart.apart {es : List Char} (h : ExponentPart es) : Apart es := by
  cases h with
  | absent => exact apart_nil
  | power he hsign h =>
    rcases he with rfl | rfl <;> exact apart_cons (by decide) (by decide) _

lemma PointPart.apart {ps es : List Char} (h : PointPart ps) (he : ExponentPart es) :
    Apart (ps ++ es) := by
  cases h with
  | absent => exact he.apart
  | point => exact apart_cons (by decide) (by decide) _
  | digits h => exact apart_cons (by decide) (by decide) _

lemma pointRun_of_pointPart {ps es : List Char} (h : PointPart ps) (he : ExponentPart es) :
    pointRun (ps ++ es) = some (ps, es) := by
  cases h with
  | absent =>
    cases he with
    | absent => rfl
    | power he hsign h => rcases he with rfl | rfl <;> rfl
  | point =>
    have hhead : es.head?.any Char.isDigit = false := by
      cases es with
      | nil => rfl
      | cons c es => exact (he.apart c rfl).1
    simp [pointRun, hhead]
  | digits h =>
    have hrun := digitRun_of_digitPart h he.apart
    obtain ⟨d, ds, rfl, hd⟩ := h.head
    rw [List.cons_append] at hrun
    simp [pointRun, hd, hrun]

lemma exponentRun_of_exponentPart {es : List Char} (h : ExponentPart es) :
    exponentRun es = some (es, []) := by
  cases h with
  | absent => rfl
  | @power e sign ds he hsign h =>
    have hrun := digitRun_of_digitPart h apart_nil
    rw [List.append_nil] at hrun
    obtain ⟨d, ds, rfl, hd⟩ := h.head
    have hplus : d ≠ '+' := by rintro rfl; cases hd
    have hminus : d ≠ '-' := by rintro rfl; cases hd
    have he : (e = 'e' || e = 'E') = true := by simpa using he
    simp only [signTexts, List.mem_cons, List.not_mem_nil, or_false] at hsign
    rcases hsign with rfl | rfl | rfl
    · simp [exponentRun, he, hplus, hminus, hd, hrun]
    · simp [exponentRun, he, hd, hrun]
    · simp [exponentRun, he, hd, hrun]

lemma PointPart.hasFraction {ps es : List Char} (h : PointPart ps) (he : ExponentPart es)
    (hne : ps ++ es ≠ []) : hasFraction (ps ++ es) = true := by
  cases h with
  | absent =>
    cases he with
    | absent => simp at hne
    | power he hsign h => rcases he with rfl | rfl <;> rfl
  | point => rfl
  | digits h => rfl

/-- A row of digits that is read as a number has no zeros in front. -/
lemma hasLeadingZero_of_read? {ds : List Char} {n : Number} (hds : DigitPart ds)
    (h : Number.read? ds = some n) : hasLeadingZero (ds.filter Char.isDigit) = false := by
  have hzeros := (numberLiteral_of_read? h).zeros hds.isWhole
  obtain ⟨es, hes, -⟩ := Option.bind_eq_some_iff.mp h
  have hfilter : ds.filter Char.isDigit = es := by
    rw [dropUnderscores_eq_filter hes]
    refine List.filter_congr fun c hc => ?_
    rcases hds.isWhole c hc with hdigit | rfl
    · have hunder : c ≠ '_' := by rintro rfl; cases hdigit
      simp [hdigit, hunder]
    · rfl
  rw [hfilter]
  exact (plainZeros_iff hes).mp hzeros

lemma goesOn_nil : goesOn [] = false := rfl

/-- What is read as a number is cut off a text as one lexeme. -/
lemma cutNumber_of_read? {c : Char} {cs : List Char} {n : Number}
    (h : Number.read? (c :: cs) = some n) :
    cutNumber c cs = .ok { lexeme := n.lexeme, rest := [] } := by
  have hdecimal := (numberLiteral_of_read? h).decimal
  generalize htext : c :: cs = text at h hdecimal
  cases hdecimal with
  | @whole ws ps es hw hp he =>
    obtain ⟨d, ws, rfl, hd⟩ := hw.head
    obtain ⟨rfl, rfl⟩ : c = d ∧ cs = ws ++ (ps ++ es) := by simpa using htext
    have hpoint : c ≠ '.' := by rintro rfl; cases hd
    have hrun := digitRun_tail hw (hp.apart he)
    -- only a whole number may not have zeros in front
    have hzero : (hasLeadingZero ((c :: ws).filter Char.isDigit) && !hasFraction (ps ++ es)) =
        false := by
      by_cases hrest : ps ++ es = []
      · rw [hrest, List.append_nil] at h
        rw [hasLeadingZero_of_read? hw h, Bool.false_and]
      · rw [hp.hasFraction he hrest, Bool.not_true, Bool.and_false]
    have hread : Number.read? (c :: ws ++ ps ++ es) = some n := by simpa using h
    simp only [cutNumber, hrun, hpoint, ne_eq, not_false_eq_true, decide_true, Bool.true_and, hzero,
      Bool.false_eq_true, if_false, pointRun_of_pointPart hp he, exponentRun_of_exponentPart he,
      goesOn_nil, hread]
  | @fraction ds es hds he =>
    obtain ⟨rfl, rfl⟩ : c = '.' ∧ cs = ds ++ es := by simpa using htext
    have hrun := digitRun_of_digitPart hds he.apart
    have hread : Number.read? ('.' :: ds ++ [] ++ es) = some n := by simpa using h
    simp only [cutNumber, hrun, ne_eq, not_true_eq_false, decide_false, Bool.false_and,
      Bool.false_eq_true, if_false, if_true, exponentRun_of_exponentPart he, goesOn_nil, hread]

lemma cut_of_read? {cs : List Char} {n : Number} (h : Number.read? cs = some n) :
    ∃ c rest, cs = c :: rest ∧ ∀ line, cut line c rest = .ok { lexeme := n.lexeme, rest := [] } := by
  have hnumber : ∀ c rest, cs = c :: rest → isNameStart c = false →
      (c.isDigit || (c = '.' && rest.head?.any Char.isDigit)) = true → ∃ c rest, cs = c :: rest ∧
        ∀ line, cut line c rest = .ok { lexeme := n.lexeme, rest := [] } := by
    rintro c rest rfl hname hstart
    refine ⟨c, rest, rfl, fun line => ?_⟩
    rw [cut, if_neg (by simp [hname]), if_pos hstart, cutNumber_of_read? h]
  cases (numberLiteral_of_read? h).decimal with
  | whole hw hp he =>
    obtain ⟨d, ws, rfl, hd⟩ := hw.head
    refine hnumber d _ rfl ?_ (by simp [hd])
    refine ascii_forall (P := fun c => c.isDigit = true → isNameStart c = false) ?_
      (ascii_of_isDigit hd) hd
    decide +kernel
  | fraction hds he =>
    obtain ⟨d, ds, rfl, hd⟩ := hds.head
    exact hnumber '.' _ rfl (by decide +kernel) (by simp [hd])

lemma textLexeme_ne_number (form : TextForm) (body : List Char) (n : Number) :
    textLexeme form body ≠ .number n := by
  unfold textLexeme
  split_ifs
  · simp
  · simp
  · split <;> simp

lemma cutText_ne_number {line : Nat} {form : TextForm} {quote : Char} {cs : List Char} {k : Cut}
    (h : cutText line form quote cs = .ok k) (n : Number) : k.lexeme ≠ .number n := by
  unfold cutText at h
  split at h <;> split at h
  · obtain rfl := Except.ok.inj h
    exact textLexeme_ne_number _ _ n
  · cases h
  · obtain rfl := Except.ok.inj h
    exact textLexeme_ne_number _ _ n
  · cases h

lemma cutWord_ne_number {line : Nat} {c : Char} {cs : List Char} {k : Cut}
    (h : cutWord line c cs = .ok k) (n : Number) : k.lexeme ≠ .number n := by
  unfold cutWord at h
  simp only at h
  split at h
  · obtain rfl := Except.ok.inj h
    simp [nameLexeme]
  · split at h
    · exact cutText_ne_number h n
    · obtain rfl := Except.ok.inj h
      simp [nameLexeme]

lemma cutSign_ne_number (c : Char) (cs : List Char) (n : Number) :
    (cutSign c cs).lexeme ≠ .number n := by
  unfold cutSign
  split
  · split <;> simp
  · simp

lemma Number.eq_of_lexeme {m n : Number} (h : m.lexeme = .number n) :
    m = n ∧ n.excess? = none := by
  unfold lexeme at h
  split at h
  · cases h
  · next hexcess =>
    obtain rfl := Lexeme.number.inj h
    exact ⟨rfl, hexcess⟩

/-- A text that is cut as one number is read as this number, which has not too many digits. -/
lemma read?_of_cut {line : Nat} {c : Char} {cs : List Char} {n : Number}
    (h : cut line c cs = .ok { lexeme := .number n, rest := [] }) :
    Number.read? (c :: cs) = some n ∧ n.excess? = none := by
  unfold cut at h
  split_ifs at h
  · exact absurd rfl (cutWord_ne_number h n)
  · obtain ⟨text, m, htext, hread, hlexeme, -⟩ := exists_read?_of_cutNumber h
    obtain ⟨rfl, hexcess⟩ := Number.eq_of_lexeme hlexeme.symm
    rw [List.append_nil] at htext
    exact ⟨htext ▸ hread, hexcess⟩
  · exact absurd rfl (cutText_ne_number h n)
  · exact absurd (congrArg Cut.lexeme (Except.ok.inj h)) (cutSign_ne_number c cs n)

end Flowline.Script
