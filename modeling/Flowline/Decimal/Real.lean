import Flowline.Decimal.Shortest

/-!
# The text of a floating-point number

Numbers are written with the fewest digits that read back, positionally from 10⁻⁴ up to below 10¹⁶
and with an exponent of at least two digits elsewhere; a point always shows that the number is not
an integer.
-/

namespace Flowline.Decimal

def trimZeros (cs : List Char) : List Char :=
  match (cs.reverse.dropWhile (· == '0')).reverse with
  | [] => ['0']
  | ds => ds

/-- Decimal digits with the point after `point` of them. -/
def positional (ds : List Char) (point : Int) : List Char :=
  if point ≤ 0 then '0' :: '.' :: List.replicate point.natAbs '0' ++ ds
  else
    let k := point.toNat
    if ds.length ≤ k then ds ++ List.replicate (k - ds.length) '0' ++ ['.', '0']
    else ds.take k ++ '.' :: ds.drop k

/-- Decimal digits with one of them before the point, and an exponent. -/
def scientific (ds : List Char) (point : Int) : List Char :=
  let e := point - 1
  let head :=
    match ds with
    | [] => []
    | [d] => [d]
    | d :: rest => d :: '.' :: rest
  let size := (Nat.toDigits 10 e.natAbs)
  head ++ ['e', if e < 0 then '-' else '+'] ++ List.replicate (2 - size.length) '0' ++ size

def realText (x : Float) : String :=
  if x.isNaN then "nan"
  else
    let sign := if x.toBits >>> 63 == 1 then "-" else ""
    if x.isInf then sign ++ "inf"
    else if x == 0.0 then sign ++ "0.0"
    else
      let d := shortest x
      let ds := trimZeros (Nat.toDigits 10 d.digits)
      let body :=
        if -4 < d.point && d.point ≤ 16 then positional ds d.point else scientific ds d.point
      sign ++ String.ofList body

end Flowline.Decimal
