import Mathlib.Tactic.Lemma
import Flowline.Emit.Operand
import Flowline.Proofs.Lexing
import Flowline.Proofs.NumberGrammar

/-!
Numbers of a source and numbers of a program.

A word that is a number is written as it stands. A source accepts more than a program does: digits
of any script, words for infinity and for an undefined value, and whole numbers with zeros in front.
Without its sign and its underscores a number of either kind is read by the same rules, so the two
differ in nothing else.
-/

namespace Flowline

open Text

open Script
open Numeral (dropUnderscores splitSign)

/-- A number of a program, with a sign in front or without. -/
def IsSignedLiteral (text : String) : Prop :=
  ∃ sign cs, text.toList = sign ++ cs ∧ sign ∈ signTexts ∧ NumberLiteral cs

/-- A program reads the text as a number: it is a sign or none, and then one number to the end. -/
def ReadsAs (text : String) (value : Numeral) : Prop :=
  ∃ sign c cs n, text.toList = sign ++ c :: cs ∧ sign ∈ signTexts ∧
    (∀ line, cut line c cs = .ok { lexeme := .number n, rest := [] }) ∧
    n.signed (decide (sign = ['-'])) = value

def magnitude (word : String) : List Char := (splitSign word.toList).2

/-- The numbers of a source that are numbers of a program. -/
structure IsPlainNumeral (word : String) : Prop where
  ascii : ∀ c ∈ word.toList, c.toNat < 128
  finite : ∃ negative mantissa exponent,
    Numeral.read? word.toList = some (.finite negative mantissa exponent)
  zeros : IsWhole (magnitude word) → PlainZeros (magnitude word)

def IsShort (word : String) : Prop :=
  IsWhole (magnitude word) →
    Numeral.digitsValue ((magnitude word).filter (· != '_')) < Nat.pow 10 digitLimit

lemma toLower_of_numberStart {c : Char} (h : c.isDigit = true ∨ c = '.') : c.toLower = c := by
  rcases h with h | rfl
  · refine ascii_forall (P := fun c => c.isDigit = true → c.toLower = c) ?_ (ascii_of_isDigit h) h
    decide
  · rfl

/-- A number of a source is a decimal number without its underscores, or a word. -/
lemma read?_cases {cs : List Char} {x : Numeral} (hascii : ∀ c ∈ cs, c.toNat < 128)
    (hblank : ∀ c ∈ cs, isBlank c = false) (h : Numeral.read? cs = some x) :
    ∃ ds, dropUnderscores false cs = some ds ∧
      (Numeral.decimal? (splitSign ds).1 (splitSign ds).2 = some x ∨
        (∀ negative mantissa exponent, x ≠ .finite negative mantissa exponent) ∧
          ∀ c ∈ (splitSign ds).2.head?, ¬ (c.isDigit = true ∨ c = '.')) := by
  have htrim : trim isNumeralBlank cs = cs := by
    refine trim_of_forall_not fun c hc => ?_
    have := hblank c hc
    simp only [isBlank, Bool.or_eq_false_iff] at this
    simp [isNumeralBlank, this]
  rw [Numeral.read?, htrim, mapM_plainChar? hascii] at h
  simp only [Option.bind_eq_bind, Option.bind_some] at h
  obtain ⟨ds, hds, hx⟩ := Option.bind_eq_some_iff.mp h
  refine ⟨ds, hds, ?_⟩
  -- in small letters a digit or a point in front would still be there
  have hword {word : String} (hw : String.ofList ((splitSign ds).2.map Char.toLower) = word)
      (hstart : word.toList.head?.all (fun c => !(c.isDigit || c = '.')) = true) :
      ∀ c ∈ (splitSign ds).2.head?, ¬ (c.isDigit = true ∨ c = '.') := by
    intro c hc hnumber
    rw [← hw, String.toList_ofList, List.head?_map, Option.mem_def.mp hc] at hstart
    have hnot : (c.isDigit || c = '.') = false := by
      simpa [toLower_of_numberStart hnumber] using hstart
    rcases hnumber with h | h <;> simp [h] at hnot
  split_ifs at hx with hinf hnan
  · obtain rfl := Option.some.inj hx
    refine .inr ⟨by simp, ?_⟩
    rcases (by simpa using hinf : _ = "inf" ∨ _ = "infinity") with hw | hw
    · exact hword hw (by decide)
    · exact hword hw (by decide)
  · obtain rfl := Option.some.inj hx
    exact .inr ⟨by simp, hword hnan (by decide)⟩
  · exact .inl hx

lemma operand_of_isNumeral {word : String} (h : isNumeral word = true) :
    operand word = word ∧ conditionOperand word = word := by
  have hne : ∀ other, isNumeral other = false → word ≠ other := by
    rintro other hother rfl
    rw [h] at hother
    cases hother
  have hempty : word.isEmpty = false := by
    simpa using hne "" (by decide +kernel)
  have hconstant : constant? word = none := by
    simp [constant?, hne "True" (by decide +kernel), hne "真" (by decide +kernel),
      hne "False" (by decide +kernel), hne "假" (by decide +kernel), hne "None" (by decide +kernel)]
  simp [operand, conditionOperand, hempty, hconstant, h]

lemma splitSign_append {sign cs : List Char} (hsign : sign ∈ signTexts) (hcs : IsDecimal cs) :
    splitSign (sign ++ cs) = (decide (sign = ['-']), cs) := by
  obtain ⟨c, rest, rfl, hc⟩ := hcs.head
  have hplus : c ≠ '+' := by rintro rfl; revert hc; decide
  have hminus : c ≠ '-' := by rintro rfl; revert hc; decide
  simp only [signTexts, List.mem_cons, List.not_mem_nil, or_false] at hsign
  rcases hsign with rfl | rfl | rfl
  · simp [splitSign, hplus, hminus]
  · rfl
  · rfl

section

variable {word : String} {x : Numeral} (hblank : ∀ c ∈ word.toList, isBlank c = false)
  (hx : Numeral.read? word.toList = some x)

include hblank hx

/-- A number of a source that is a number of a program is a decimal number. -/
lemma decimal?_of_literal {sign cs : List Char} (hword : word.toList = sign ++ cs)
    (hsign : sign ∈ signTexts) (hliteral : NumberLiteral cs) :
    (∀ c ∈ word.toList, c.toNat < 128) ∧ magnitude word = cs ∧
      ∃ ds, dropUnderscores false cs = some ds ∧
        Numeral.decimal? (decide (sign = ['-'])) ds = some x := by
  have hascii : ∀ c ∈ word.toList, c.toNat < 128 := by
    rw [hword, List.forall_mem_append]
    exact ⟨fun c hc => (chars_of_mem_signTexts hsign c hc).ascii,
      fun c hc => (hliteral.decimal.chars c hc).ascii⟩
  obtain ⟨ds, hds, hcases⟩ := read?_cases hascii hblank hx
  obtain ⟨-, rest, -, -, hrest, -, hsplit⟩ := exists_sign hds
  have hparts := splitSign_append hsign hliteral.decimal
  rw [← hword, hsplit] at hparts
  obtain ⟨hnegative, rfl⟩ := Prod.mk.inj hparts
  refine ⟨hascii, by rw [magnitude, hsplit], (splitSign ds).2, hrest, ?_⟩
  rcases hcases with hdecimal | ⟨-, hstart⟩
  · rwa [hnegative] at hdecimal
  · obtain ⟨c, cs, rfl, hc⟩ := hliteral.decimal.head
    exact absurd hc (hstart c (head?_dropUnderscores hrest))

lemma IsSignedLiteral.isPlainNumeral (h : IsSignedLiteral word) : IsPlainNumeral word := by
  obtain ⟨sign, cs, hword, hsign, hliteral⟩ := h
  obtain ⟨hascii, hmagnitude, ds, -, hdecimal⟩ :=
    decimal?_of_literal hblank hx hword hsign hliteral
  obtain ⟨mantissa, exponent, rfl, -⟩ := decimal?_sign hdecimal
  exact ⟨hascii, ⟨_, _, _, hx⟩, hmagnitude ▸ hliteral.zeros⟩

/-- A plain number is a sign or none and a number of a program. -/
lemma IsPlainNumeral.parts (h : IsPlainNumeral word) :
    ∃ sign n, word.toList = sign ++ magnitude word ∧ sign ∈ signTexts ∧
      Number.read? (magnitude word) = some n ∧ n.signed (decide (sign = ['-'])) = x := by
  obtain ⟨ds, hds, hcases⟩ := read?_cases h.ascii hblank hx
  obtain ⟨sign, rest, hword, hsign, hrest, hnegative, hsplit⟩ := exists_sign hds
  have hmagnitude : magnitude word = rest := by rw [magnitude, hsplit]
  have hdecimal : Numeral.decimal? (splitSign ds).1 (splitSign ds).2 = some x := by
    refine hcases.resolve_right fun hnot => ?_
    obtain ⟨negative, mantissa, exponent, hfinite⟩ := h.finite
    rw [hx] at hfinite
    exact hnot.1 _ _ _ (Option.some.inj hfinite)
  rw [hnegative] at hdecimal
  obtain ⟨n, hn, hvalue⟩ := Number.read?_of_decimal? hrest hdecimal (hmagnitude ▸ h.zeros)
  exact ⟨sign, n, by rw [hmagnitude, hword], hsign, by rw [hmagnitude, hn], hvalue⟩

end

/-- A number has not too many digits if it has more than digits, or is below the limit. -/
lemma excess?_eq_none_iff {cs : List Char} {n : Number} (h : Number.read? cs = some n) :
    n.excess? = none ↔
      (IsWhole cs → Numeral.digitsValue (cs.filter (· != '_')) < Nat.pow 10 digitLimit) := by
  obtain ⟨ds, hds, hn⟩ := Option.bind_eq_some_iff.mp h
  rw [← dropUnderscores_eq_filter hds, isWhole_iff hds]
  split at hn
  · next hall =>
    have hall : ∀ c ∈ ds, c.isDigit = true := by simpa using (Bool.and_eq_true_iff.mp hall).2
    split at hn
    case isTrue => cases hn
    obtain rfl := Option.some.inj hn
    rw [Number.excess?, forall_prop_of_true hall]
    split
    · next hlt => exact ⟨fun _ => hlt, fun _ => rfl⟩
    · next hlt => exact ⟨fun hnone => absurd hnone (by simp), fun h => absurd h hlt⟩
  · next hnot =>
    obtain ⟨x, hx, rfl⟩ := Option.map_eq_some_iff.mp hn
    refine ⟨fun _ hall => absurd ?_ hnot, fun _ => rfl⟩
    have hne : ds ≠ [] := by
      rintro rfl
      cases hx
    simpa [hne] using hall

/-- **Numbers remain numbers**, as far as they are plain: a word of a source that is a number is
written as it stands. This is a number of a program, with a sign or without, exactly if the word has
ASCII digits only, is no word for infinity or for an undefined value, and does not begin with a zero
if it is whole and not zero; and the program reads it as the number that the source means exactly if,
in addition, a whole number has no more digits than can be read. -/
theorem numeral_isSignedLiteral_iff (word : String)
    (hblank : ∀ c ∈ word.toList, isBlank c = false) (hword : isNumeral word = true) :
    (operand word = word ∧ conditionOperand word = word) ∧
      (IsSignedLiteral word ↔ IsPlainNumeral word) ∧
      ∀ value, ReadsAs word value ↔
        IsPlainNumeral word ∧ IsShort word ∧ Numeral.read? word.toList = some value := by
  obtain ⟨x, hx⟩ := Option.isSome_iff_exists.mp hword
  have hplain : ∀ h : IsPlainNumeral word, IsSignedLiteral word := by
    intro h
    obtain ⟨sign, n, htext, hsign, hn, -⟩ := h.parts hblank hx
    exact ⟨sign, magnitude word, htext, hsign, numberLiteral_of_read? hn⟩
  refine ⟨operand_of_isNumeral hword, ⟨fun h => h.isPlainNumeral hblank hx, hplain⟩, ?_⟩
  intro value
  constructor
  · -- what is cut off is read with the value of the word
    rintro ⟨sign, c, cs, n, htext, hsign, hcut, rfl⟩
    obtain ⟨hn, hexcess⟩ := read?_of_cut (hcut 0)
    have hliteral := numberLiteral_of_read? hn
    obtain ⟨-, hmagnitude, ds, hds, hdecimal⟩ := decimal?_of_literal hblank hx htext hsign hliteral
    obtain ⟨m, hm, hvalue⟩ := Number.read?_of_decimal? hds hdecimal hliteral.zeros
    rw [hn] at hm
    obtain rfl := Option.some.inj hm
    refine ⟨IsSignedLiteral.isPlainNumeral hblank hx ⟨sign, _, htext, hsign, hliteral⟩, ?_, ?_⟩
    · rw [IsShort, hmagnitude]
      exact (excess?_eq_none_iff hn).mp hexcess
    · rw [hx, hvalue]
  · -- the parts of a plain number are cut off one after the other
    rintro ⟨h, hshort, hvalue⟩
    obtain ⟨sign, n, htext, hsign, hn, hsigned⟩ := h.parts hblank hx
    obtain ⟨c, cs, hcs, hcut⟩ := cut_of_read? hn
    have hlexeme : n.lexeme = .number n := by
      rw [Number.lexeme, (excess?_eq_none_iff hn).mpr hshort]
    rw [hlexeme] at hcut
    refine ⟨sign, c, cs, n, hcs ▸ htext, hsign, hcut, ?_⟩
    rw [hsigned]
    rw [hx] at hvalue
    exact Option.some.inj hvalue

def fullNumeral : String := "-0_0.5e+1_0"

theorem fullNumeral_readsAs :
    isNumeral fullNumeral = true ∧ IsSignedLiteral fullNumeral ∧
      ReadsAs fullNumeral (.finite true 5 9) := by
  have hword : isNumeral fullNumeral = true := by decide +kernel
  have hvalue : Numeral.read? fullNumeral.toList = some (.finite true 5 9) := by decide +kernel
  have hnot : ¬ IsWhole (magnitude fullNumeral) :=
    fun h => absurd (h '.' (by decide)) (by decide)
  have hplain : IsPlainNumeral fullNumeral :=
    ⟨forall_mem_of_all (by decide), ⟨_, _, _, hvalue⟩, fun h => absurd h hnot⟩
  obtain ⟨-, hliteral, hreads⟩ := numeral_isSignedLiteral_iff fullNumeral
    (forall_mem_of_all (by decide)) hword
  exact ⟨hword, hliteral.mpr hplain, (hreads _).mpr ⟨hplain, fun h => absurd h hnot, hvalue⟩⟩

/-- Numbers of a source that are written as they stand and are no numbers of a program: one with zeros
in front, which cannot be cut; a word, which is cut as a name; and a digit of another script. -/
theorem sourceNumerals_refused :
    (isNumeral "007" = true ∧ operand "007" = "007" ∧ conditionOperand "007" = "007" ∧
      ¬ IsSignedLiteral "007" ∧ ∀ line, cut line '0' ['0', '7'] = .error .leadingZeros) ∧
    (isNumeral "inf" = true ∧ operand "inf" = "inf" ∧ conditionOperand "inf" = "inf" ∧
      ¬ IsSignedLiteral "inf" ∧
      ∀ line, cut line 'i' ['n', 'f'] = .ok { lexeme := .name "inf", rest := [] }) ∧
    isNumeral "٣" = true ∧ operand "٣" = "٣" ∧ conditionOperand "٣" = "٣" ∧
      ¬ IsSignedLiteral "٣" ∧ ∀ line, cut line '٣' [] = .error (.badCharacter '٣') := by
  have hplain : ∀ word, (∀ c ∈ word.toList, isBlank c = false) → isNumeral word = true →
      ¬ IsPlainNumeral word → ¬ IsSignedLiteral word := by
    intro word hblank hword hnot hliteral
    obtain ⟨x, hx⟩ := Option.isSome_iff_exists.mp hword
    exact hnot (hliteral.isPlainNumeral hblank hx)
  have hzeros : isNumeral "007" = true := by decide +kernel
  have hinf : isNumeral "inf" = true := by decide +kernel
  have hthree : isNumeral "٣" = true := by decide +kernel
  refine ⟨⟨hzeros, (operand_of_isNumeral hzeros).1, (operand_of_isNumeral hzeros).2, ?_, ?_⟩,
    ⟨hinf, (operand_of_isNumeral hinf).1, (operand_of_isNumeral hinf).2, ?_, ?_⟩,
    hthree, (operand_of_isNumeral hthree).1, (operand_of_isNumeral hthree).2, ?_, ?_⟩
  · -- zeros in front
    refine hplain _ (forall_mem_of_all (by decide)) hzeros fun h => ?_
    have hwhole : IsWhole (magnitude "007") := forall_mem_of_all (by decide)
    exact absurd (h.zeros hwhole rfl '7' (by decide)) (by decide)
  · intro line
    have hname : isNameStart '0' = false := by decide +kernel
    rw [cut, if_neg (by simp [hname]), if_pos (by decide)]
    rfl
  · -- no number of a program is infinite
    refine hplain _ (forall_mem_of_all (by decide)) hinf fun h => ?_
    obtain ⟨negative, mantissa, exponent, hfinite⟩ := h.finite
    have hvalue : Numeral.read? "inf".toList = some (.infinite false) := by decide +kernel
    rw [hvalue] at hfinite
    cases hfinite
  · intro line
    have hrest : ∀ c ∈ ['n', 'f'], isNameRest c = true := forall_mem_of_all (by decide +kernel)
    rw [cut, if_pos (by decide +kernel)]
    exact cutWord_name hrest (forall_mem_of_all (by decide)) parted_nil
  · -- a digit of another script
    refine hplain _ (forall_mem_of_all (by decide)) hthree fun h => ?_
    exact absurd (h.ascii '٣' (by decide)) (by decide)
  · intro line
    have hname : isNameStart '٣' = false := by decide +kernel
    rw [cut, if_neg (by simp [hname]), if_neg (by decide), if_neg (by decide),
      if_pos (by decide +kernel)]

end Flowline
