/-!
# Blanks and line breaks

Source files and editor documents do not agree on what a blank is. A source file counts the
information separators U+001C–U+001F and the next-line control U+0085 as blanks; the editor counts
the byte order mark U+FEFF instead. Everything else that reads lines is the same for both, so the
readers take the class as an argument.
-/

namespace Flowline.Text

/-- The blanks that source files and editor documents agree on. -/
def isCommonBlank (n : Nat) : Bool :=
  (9 ≤ n && n ≤ 13) || n == 32 || n == 0xA0 || n == 0x1680 || (0x2000 ≤ n && n ≤ 0x200A) ||
    n == 0x2028 || n == 0x2029 || n == 0x202F || n == 0x205F || n == 0x3000

/-- The blanks that may stand around a numeral. -/
def isNumeralBlank (c : Char) : Bool := isCommonBlank c.toNat || c.toNat == 0x85

/-- The blanks of a source file. -/
def isBlank (c : Char) : Bool :=
  isCommonBlank c.toNat || (0x1C ≤ c.toNat && c.toNat ≤ 0x1F) || c.toNat == 0x85

/-- The blanks of an editor document. -/
def isEditorBlank (c : Char) : Bool := isCommonBlank c.toNat || c.toNat == 0xFEFF

def isLineBreak (c : Char) : Bool :=
  (10 ≤ c.toNat && c.toNat ≤ 13) || (0x1C ≤ c.toNat && c.toNat ≤ 0x1E) || c.toNat == 0x85 ||
    c.toNat == 0x2028 || c.toNat == 0x2029

theorem isBlank_of_isLineBreak {c : Char} (h : isLineBreak c = true) : isBlank c = true := by
  simp only [isLineBreak, isBlank, isCommonBlank, Bool.or_eq_true, Bool.and_eq_true,
    decide_eq_true_eq, beq_iff_eq] at h ⊢
  omega

end Flowline.Text
