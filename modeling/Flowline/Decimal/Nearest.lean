/-!
# Nearest floating-point numbers

The floating-point number nearest to a quotient of two natural numbers; halfway between two of them
the one with the even last digit is taken. The quotient is first rounded, exactly, to a multiple of
the unit that its size allows.
-/

namespace Flowline.Decimal

/-- The integer nearest to `num / den`; a half goes to the even neighbour. -/
def roundDiv (num den : Nat) : Nat :=
  let q := num / den
  let r := num % den
  if den < 2 * r || (den = 2 * r && q % 2 = 1) then q + 1 else q

/-- The largest `e` with `2 ^ e ≤ num / den`, for positive numbers. -/
def binarySize (num den : Nat) : Int :=
  let e : Int := (Nat.log2 num : Int) - Nat.log2 den
  if den * Nat.pow 2 e.toNat ≤ num * Nat.pow 2 (-e).toNat then e else e - 1

/-- The floating-point number nearest to `num / den`, infinite if it is too large. -/
def nearest (num den : Nat) : Float :=
  if num = 0 then 0.0
  else
    let size := binarySize num den
    if size > 1100 then 1.0 / 0.0
    else if size < -1200 then 0.0
    else
      let unit := max (size - 52) (-1074)
      let m := roundDiv (num * Nat.pow 2 (-unit).toNat) (den * Nat.pow 2 unit.toNat)
      m.toUInt64.toFloat.scaleB unit

def nearestInt (n : Int) : Float :=
  if n < 0 then -(nearest n.natAbs 1) else nearest n.natAbs 1

end Flowline.Decimal
