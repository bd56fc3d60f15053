/-!
# Shortest decimals

The fewest digits that read back as a given floating-point number. The number is decoded into
`m · 2 ^ q`; of the decimals with one digit, two digits and so on, the first that lies in the
interval of reals rounding to it is taken, of two such the nearer one. All comparisons are exact.
-/

namespace Flowline.Decimal

/-- The positive number `m · 2 ^ q` in lowest binary form, as the format stores it. -/
structure Binary where
  m : Nat
  q : Int
  /-- Whether the next smaller number lies only half as far away as the next larger one. -/
  uneven : Bool

/-- The decimal `0.d₁d₂… · 10 ^ point` with the digits of `digits`. -/
structure Digits where
  digits : Nat
  point : Int
deriving DecidableEq, Repr

/-- The size of a finite number that is not zero. -/
def Binary.ofBits (bits : UInt64) : Binary :=
  let fraction := (bits &&& 0xFFFFFFFFFFFFF).toNat
  let exponent := ((bits >>> 52) &&& 0x7FF).toNat
  if exponent = 0 then ⟨fraction, -1074, false⟩
  else ⟨fraction + Nat.pow 2 52, exponent - 1075, fraction == 0 && exponent != 1⟩

/-- `c · 10 ^ e` compared with `n · 2 ^ q / 4`. -/
def compareScaled (c : Nat) (e : Int) (n : Nat) (q : Int) : Ordering :=
  compare (4 * c * Nat.pow 10 e.toNat * Nat.pow 2 (-q).toNat)
    (n * Nat.pow 2 q.toNat * Nat.pow 10 (-e).toNat)

/-- Whether `c · 10 ^ e` rounds to the number; the ends of the interval belong to even numbers. -/
def Binary.accepts (b : Binary) (c : Nat) (e : Int) : Bool :=
  let low := compareScaled c e (4 * b.m - (if b.uneven then 1 else 2)) b.q
  let high := compareScaled c e (4 * b.m + 2) b.q
  if b.m % 2 = 0 then low != .lt && high != .gt else low == .gt && high == .lt

/-- The integer part of `m · 2 ^ q / 10 ^ e`. -/
def Binary.floorAt (b : Binary) (e : Int) : Nat :=
  b.m * Nat.pow 2 b.q.toNat * Nat.pow 10 (-e).toNat /
    (Nat.pow 2 (-b.q).toNat * Nat.pow 10 e.toNat)

/-- Whether `c + 1` is nearer to the number than `c`, both scaled by `10 ^ e`; a tie goes to the
even one. -/
def Binary.upperNearer (b : Binary) (c : Nat) (e : Int) : Bool :=
  match compareScaled (2 * c + 1) e (8 * b.m) b.q with
  | .lt => true
  | .gt => false
  | .eq => c % 2 == 1

/-- The decimal with grid `10 ^ e` that reads back as the number, if there is one. -/
def Binary.onGrid? (b : Binary) (e : Int) : Option Nat :=
  let c := b.floorAt e
  match b.accepts c e, b.accepts (c + 1) e with
  | true, true => some (if b.upperNearer c e then c + 1 else c)
  | true, false => some c
  | false, true => some (c + 1)
  | false, false => none

/-- How many digits stand before the point, counted negatively for zeros after it. The estimate
from the binary size is at most one too small. -/
def Binary.point (b : Binary) : Int :=
  let estimate := ((Nat.log2 b.m : Int) + b.q) * 30103 / 100000
  if b.floorAt (estimate + 1) ≥ 1 then estimate + 2
  else if b.floorAt estimate ≥ 1 then estimate + 1
  else estimate

/-- Tries the grids with `tried`, `tried + 1`, … digits. Seventeen digits always suffice. -/
def Binary.search (b : Binary) (point : Int) : Nat → Nat → Digits
  | 0, tried => ⟨b.floorAt (point - tried), point⟩
  | fuel + 1, tried =>
    match b.onGrid? (point - tried) with
    | some c => ⟨c, if c = Nat.pow 10 tried then point + 1 else point⟩
    | none => b.search point fuel (tried + 1)

/-- The shortest decimal of a finite number that is not zero, its sign left aside. -/
def shortest (x : Float) : Digits :=
  let b := Binary.ofBits x.toBits
  b.search b.point 17 1

end Flowline.Decimal
