/-!
# Columns

An editor counts columns in 16-bit units: a character beyond U+FFFF takes two. A text stays a list
of characters; columns are a measure on it.
-/

namespace Flowline.Text

def charUnits (c : Char) : Nat := if c.toNat < 0x10000 then 1 else 2

def units : List Char → Nat
  | [] => 0
  | c :: cs => charUnits c + units cs

/-- The longest beginning of the text that has at most `n` units. -/
def takeUnits : Nat → List Char → List Char
  | _, [] => []
  | n, c :: cs => if charUnits c ≤ n then c :: takeUnits (n - charUnits c) cs else []

/-- What follows `takeUnits n`. -/
def dropUnits : Nat → List Char → List Char
  | _, [] => []
  | n, c :: cs => if charUnits c ≤ n then dropUnits (n - charUnits c) cs else c :: cs

@[simp] theorem units_nil : units [] = 0 := rfl

@[simp] theorem units_cons (c : Char) (cs : List Char) :
    units (c :: cs) = charUnits c + units cs := rfl

@[simp] theorem units_append (xs ys : List Char) : units (xs ++ ys) = units xs + units ys := by
  induction xs with
  | nil => simp
  | cons c cs ih => simp [ih, Nat.add_assoc]

theorem takeUnits_append_dropUnits (n : Nat) (cs : List Char) :
    takeUnits n cs ++ dropUnits n cs = cs := by
  induction cs generalizing n with
  | nil => rfl
  | cons c cs ih =>
    by_cases h : charUnits c ≤ n <;> simp [takeUnits, dropUnits, h, ih]

end Flowline.Text
