import Mathlib.Data.List.TakeWhile
import Mathlib.Tactic.Lemma
import Flowline.Script.Literal

/-!
Whole numbers as they are written.

The decimal digits of a number have no underscore, no point and no zero in front, so they are a
numeral of a source, with a minus sign before them or without, and a number of a program; and the
number they write is the one they were taken from.
-/

namespace Flowline

open Text

/-! ### Characters -/

/-- What holds of the characters of a list, looked at one by one: the list is run through, and not
the type of all characters. -/
lemma forall_mem_of_all {P : Char → Prop} [DecidablePred P] {cs : List Char}
    (h : cs.all (fun c => decide (P c)) = true) : ∀ c ∈ cs, P c := by
  simpa using h

lemma exists_mem_of_any {P : Char → Prop} [DecidablePred P] {cs : List Char}
    (h : cs.any (fun c => decide (P c)) = true) : ∃ c ∈ cs, P c := by
  simpa using h

/-- What holds of every ASCII character by inspection. -/
lemma ascii_forall {P : Char → Prop} (h : ∀ n < 128, P (Char.ofNat n)) {c : Char}
    (hc : c.toNat < 128) : P c := by
  rw [← Char.ofNat_toNat c]
  exact h c.toNat hc

lemma ascii_of_isAlphanum {c : Char} (h : c.isAlphanum = true) : c.toNat < 128 := by
  have hval : (decide ('A'.val ≤ c.val ∧ c.val ≤ 'Z'.val) || ('a'.val ≤ c.val && c.val ≤ 'z'.val) ||
      ('0'.val ≤ c.val && c.val ≤ '9'.val)) = true := h
  simp only [Bool.or_eq_true, Bool.and_eq_true, decide_eq_true_eq, UInt32.le_iff_toNat_le] at hval
  change ((65 ≤ c.toNat ∧ c.toNat ≤ 90) ∨ (97 ≤ c.toNat ∧ c.toNat ≤ 122)) ∨
    (48 ≤ c.toNat ∧ c.toNat ≤ 57) at hval
  omega

lemma ascii_of_isDigit {c : Char} (h : c.isDigit = true) : c.toNat < 128 :=
  ascii_of_isAlphanum (by simp [Char.isAlphanum, h])

/-! ### The digits of a number -/

def digits (n : Nat) : List Char := Nat.toDigits 10 n

lemma toList_toString (n : Nat) : (toString n).toList = digits n := by
  rw [Nat.toString_eq_ofList_toDigits, String.toList_ofList, digits]

lemma length_toString (n : Nat) : (toString n).length = (digits n).length := by
  rw [← String.length_toList, toList_toString]

lemma isDigit_of_mem_digits {n : Nat} {c : Char} (h : c ∈ digits n) : c.isDigit = true :=
  Nat.isDigit_of_mem_toDigits (by decide) (by decide) h

lemma notMem_digits {c : Char} (h : c.isDigit = false) (n : Nat) : c ∉ digits n := by
  intro hc
  rw [isDigit_of_mem_digits hc] at h
  cases h

lemma digits_ne_nil (n : Nat) : digits n ≠ [] := Nat.toDigits_ne_nil

lemma digits_eq_cons (n : Nat) :
    ∃ c cs, digits n = c :: cs ∧ c.isDigit = true ∧ ∀ d ∈ cs, d.isDigit = true := by
  obtain ⟨c, cs, h⟩ := List.exists_cons_of_ne_nil (digits_ne_nil n)
  have hmem : ∀ d ∈ c :: cs, d.isDigit = true := fun d hd => isDigit_of_mem_digits (h ▸ hd)
  exact ⟨c, cs, h, hmem c (by simp), fun d hd => hmem d (List.mem_cons_of_mem c hd)⟩

lemma digitsValue_digits (n : Nat) : Numeral.digitsValue (digits n) = n := by
  exact Nat.ofDigitChars_ten_toDigits

/-- Of a positive number the first digit is not zero. -/
lemma head?_digits {n : Nat} (h : 0 < n) : (digits n).head? ≠ some '0' := by
  induction n using Nat.strong_induction_on with
  | _ n ih =>
    by_cases hn : n < 10
    · rw [digits, Nat.toDigits_of_lt_base hn, List.head?_cons]
      have : ∀ m < 10, 0 < m → m.digitChar ≠ '0' := by decide
      simpa using this n hn h
    · rw [digits, Nat.toDigits_of_base_le (by decide) (by omega), List.head?_append]
      have hhead := ih (n / 10) (by omega) (by omega)
      obtain ⟨c, cs, hc, -⟩ := digits_eq_cons (n / 10)
      rw [digits] at hc hhead
      simpa [hc] using hhead

lemma hasLeadingZero_digits (n : Nat) : Script.hasLeadingZero (digits n) = false := by
  rcases Nat.eq_zero_or_pos n with rfl | hn
  · rfl
  · simp [Script.hasLeadingZero, head?_digits hn]

/-- A number has at most `k` digits if it is below the power of ten. -/
lemma length_digits_le_iff {n k : Nat} (hk : 0 < k) : (digits n).length ≤ k ↔ n < Nat.pow 10 k :=
  Nat.length_toDigits_le_iff (by decide) hk

/-! ### Reading digits -/

lemma dropUnderscores_of_notMem {cs : List Char} (h : '_' ∉ cs) (b : Bool) :
    Numeral.dropUnderscores b cs = some cs := by
  induction cs generalizing b with
  | nil => rfl
  | cons c cs ih =>
    have hc : c ≠ '_' := fun hc => h (by simp [hc])
    rw [Numeral.dropUnderscores, if_neg hc, ih fun hm => h (List.mem_cons_of_mem c hm)]
    rfl

/-- The digits of a number are read as the number. -/
lemma Script.Number.read?_digits (n : Nat) : Number.read? (digits n) = some (.whole n) := by
  rw [Number.read?, dropUnderscores_of_notMem (notMem_digits (by decide) n)]
  simp only [Option.bind_eq_bind, Option.bind_some, hasLeadingZero_digits, digitsValue_digits]
  rw [if_pos]
  · rfl
  · simpa [digits_ne_nil] using fun c hc => isDigit_of_mem_digits (n := n) hc

lemma trim_of_forall_not {p : Char → Bool} {cs : List Char} (h : ∀ c ∈ cs, p c = false) :
    trim p cs = cs := by
  have hdrop : ∀ ds : List Char, (∀ c ∈ ds, p c = false) → ds.dropWhile p = ds := by
    intro ds hds
    cases ds with
    | nil => rfl
    | cons d ds => rw [List.dropWhile_cons_of_neg (by simp [hds d])]
  have hrev : ∀ c ∈ cs.reverse, p c = false := fun c hc => h c (List.mem_reverse.mp hc)
  rw [trim, trimStart, hdrop cs h, trimEnd, hdrop _ hrev, List.reverse_reverse]

lemma mapM_plainChar? {cs : List Char} (h : ∀ c ∈ cs, c.toNat < 128) :
    cs.mapM Numeral.plainChar? = some cs := by
  induction cs with
  | nil => rfl
  | cons c cs ih =>
    have hc : Numeral.plainChar? c = some c := by simp [Numeral.plainChar?, h c]
    rw [List.mapM_cons, hc, ih fun d hd => h d (List.mem_cons_of_mem c hd)]
    rfl

lemma decimal?_digits (negative : Bool) (n : Nat) :
    (Numeral.decimal? negative (digits n)).isSome = true := by
  have hall : ∀ c ∈ digits n, c.isDigit = true := fun c hc => isDigit_of_mem_digits hc
  have htake : (digits n).takeWhile Char.isDigit = digits n := List.takeWhile_eq_self_iff.mpr hall
  have hdrop : (digits n).dropWhile Char.isDigit = [] := List.dropWhile_eq_nil_iff.mpr hall
  simp [Numeral.decimal?, htake, hdrop, digits_ne_nil, Numeral.exponent?]

def signedDigits (negative : Bool) (n : Nat) : List Char :=
  if negative then '-' :: digits n else digits n

lemma mem_signedDigits {negative : Bool} {n : Nat} {c : Char} (h : c ∈ signedDigits negative n) :
    c = '-' ∨ c.isDigit = true := by
  cases negative with
  | false => exact .inr (isDigit_of_mem_digits h)
  | true => exact (List.mem_cons.mp h).imp_right isDigit_of_mem_digits

lemma splitSign_signedDigits (negative : Bool) (n : Nat) :
    Numeral.splitSign (signedDigits negative n) = (negative, digits n) := by
  cases negative with
  | true => rfl
  | false =>
    obtain ⟨c, cs, h, hc, -⟩ := digits_eq_cons n
    have hminus : c ≠ '-' := by rintro rfl; cases hc
    have hplus : c ≠ '+' := by rintro rfl; cases hc
    simp [signedDigits, h, Numeral.splitSign, hminus, hplus]

lemma isNumeral_signedDigits (negative : Bool) (n : Nat) :
    isNumeral (String.ofList (signedDigits negative n)) = true := by
  have hascii : ∀ c ∈ signedDigits negative n, c.toNat < 128 := by
    intro c hc
    rcases mem_signedDigits hc with rfl | hc
    · decide
    · exact ascii_of_isDigit hc
  have hblank : ∀ c ∈ signedDigits negative n, isNumeralBlank c = false := by
    intro c hc
    rcases mem_signedDigits hc with rfl | hd
    · rfl
    · refine ascii_forall (P := fun c => c.isDigit = true → isNumeralBlank c = false) ?_
        (ascii_of_isDigit hd) hd
      decide +kernel
  have hunder : '_' ∉ signedDigits negative n := by
    intro hm
    rcases mem_signedDigits hm with h | h <;> exact absurd h (by decide)
  rw [isNumeral, String.toList_ofList, Numeral.read?, trim_of_forall_not hblank,
    mapM_plainChar? hascii]
  simp only [Option.bind_eq_bind, Option.bind_some, dropUnderscores_of_notMem hunder,
    splitSign_signedDigits]
  -- a word for infinity would be a numeral as well, so nothing has to be excluded
  split
  · rfl
  · split
    · rfl
    · exact decimal?_digits negative n

end Flowline
