import Flowline.Text.NameTable

/-!
# Names

A name is what a generated program accepts as a variable: a beginning character followed by
continuing ones, of any script.
-/

namespace Flowline.Text

def inRanges (ranges : List (Nat × Nat)) (n : Nat) : Bool :=
  ranges.any fun r => r.1 ≤ n && n ≤ r.2

def isNameStart (c : Char) : Bool := inRanges nameStartRanges c.toNat

def isNameRest (c : Char) : Bool :=
  inRanges nameStartRanges c.toNat || inRanges nameRestRanges c.toNat

/-- Whether the text is a name. Reserved words of the generated language count as names. -/
def isName : List Char → Bool
  | [] => false
  | c :: cs => isNameStart c && cs.all isNameRest

end Flowline.Text
