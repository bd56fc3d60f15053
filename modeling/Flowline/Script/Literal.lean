import Flowline.Numeral
import Flowline.Text.Quoted

/-!
# Literals of a generated program

A text stands between two quotes, or between two groups of three, and may hold escapes; a number is
written with digits, a point and an exponent. Where a text ends is settled first, and what its
escapes stand for afterwards.
-/

namespace Flowline.Script

/-! ## Texts -/

/-- Why the escapes of a text cannot be decoded: where the escape at fault begins, where the fault
shows, and what is wrong. -/
structure EscapeFault where
  start : Nat
  stop : Nat
  reason : String
deriving DecidableEq, Repr

def EscapeFault.message (f : EscapeFault) : String :=
  s!"(unicode error) 'unicodeescape' codec can't decode bytes in position {f.start}-" ++
    s!"{f.stop - 1}: {f.reason}"

def hexValue? (c : Char) : Option Nat :=
  if c.isDigit then some (c.toNat - 48)
  else if 'a' ≤ c && c ≤ 'f' then some (c.toNat - 87)
  else if 'A' ≤ c && c ≤ 'F' then some (c.toNat - 55)
  else none

/-- The character with the given number. Half of a pair has none of its own, so the replacement
character stands for it. -/
def charOfNumber (n : Nat) : Char := if n.isValidChar then Char.ofNat n else '�'

def isOctal (c : Char) : Bool := '0' ≤ c && c ≤ '7'

def controlEscape? (c : Char) : Option Char :=
  if c = 'a' then some '\x07'
  else if c = 'b' then some '\x08'
  else if c = 'f' then some '\x0c'
  else if c = 'n' then some '\n'
  else if c = 'r' then some '\r'
  else if c = 't' then some '\t'
  else if c = 'v' then some '\x0b'
  else none

/-- How many places a character takes in a text that is being decoded. -/
def places (c : Char) : Nat := if c.toNat < 0x80 then 1 else 10

def totalPlaces (cs : List Char) : Nat := cs.foldl (fun n c => n + places c) 0

/-- How many places a backslash takes before the given characters. -/
def backslashPlaces : List Char → Nat
  | [] => 6
  | c :: _ => if c.toNat < 0x80 then 1 else 6

/-- What an escape with `width` hexadecimal digits writes, and how many characters after the
backslash belong to it. -/
def hexEscape (start width : Nat) (form : String) (cs : List Char) :
    Except EscapeFault (List Char × Nat) :=
  let ds := (cs.take width).map hexValue? |>.takeWhile Option.isSome |>.filterMap id
  if ds.length < width then
    .error ⟨start, start + 2 + ds.length, "truncated \\" ++ form ++ " escape"⟩
  else
    let n := ds.foldl (fun n d => 16 * n + d) 0
    if n < 0x110000 then .ok ([charOfNumber n], width + 1)
    else .error ⟨start, start + 2 + width, "illegal Unicode character"⟩

/-- The fault of an escape that names a character; no names are known. -/
def namedEscape (start : Nat) (cs : List Char) : EscapeFault :=
  let malformed := "malformed \\N character escape"
  match cs with
  | '\x7b' :: rest =>
    let name := rest.takeWhile (· != '\x7d')
    let size := totalPlaces name
    if name.isEmpty || name.length = rest.length then ⟨start, start + 3 + size, malformed⟩
    else ⟨start, start + 4 + size, "unknown Unicode character name"⟩
  | _ => ⟨start, start + 2, malformed⟩

/-- What the characters after a backslash write, and how many of them belong to the escape. A
backslash that begins no escape stands for itself; one at the end of a line joins it to the next. -/
def escape (start : Nat) : List Char → Except EscapeFault (List Char × Nat)
  | [] => .ok (['\\'], 0)
  | c :: cs =>
    if c = '\\' || c = '\'' || c = '"' then .ok ([c], 1)
    else if c = '\n' then .ok ([], 1)
    else if c = 'x' then hexEscape start 2 "xXX" cs
    else if c = 'u' then hexEscape start 4 "uXXXX" cs
    else if c = 'U' then hexEscape start 8 "UXXXXXXXX" cs
    else if c = 'N' then .error (namedEscape start cs)
    else if isOctal c then
      let ds := ((c :: cs).take 3).takeWhile isOctal
      .ok ([charOfNumber (ds.foldl (fun n d => 8 * n + (d.toNat - 48)) 0)], ds.length)
    else
      match controlEscape? c with
      | some d => .ok ([d], 1)
      | none => .ok (['\\', c], 1)

/-- The text that stands between quotes, given the place at which it begins. -/
def decodeText (start : Nat) (cs : List Char) : Except EscapeFault (List Char) :=
  match cs with
  | [] => .ok []
  | c :: cs =>
    if c = '\\' then
      match escape start cs with
      | .error f => .error f
      | .ok (value, n) =>
        (decodeText (start + backslashPlaces cs + totalPlaces (cs.take n)) (cs.drop n)).map
          (value ++ ·)
    else (decodeText (start + places c) cs).map (c :: ·)
termination_by cs.length
decreasing_by
  · simp only [List.length_cons, List.length_drop]; omega
  · simp

/-- What stands before the ending of a text, and what follows the ending. The character after a
backslash belongs to no ending; an ending of one quote has to stand on the same line. A text without
its ending fails with the number of lines that were passed. -/
def textBody (ending : List Char) (passed : Nat) : List Char → Except Nat (List Char × List Char)
  | [] => .error passed
  | c :: cs =>
    if ending.isPrefixOf (c :: cs) then .ok ([], (c :: cs).drop ending.length)
    else if c = '\n' then
      if ending.length = 1 then .error passed
      else (textBody ending (passed + 1) cs).map fun r => (c :: r.1, r.2)
    else if c = '\\' then
      match cs with
      | [] => .error passed
      | d :: ds =>
        (textBody ending (if d = '\n' then passed + 1 else passed) ds).map fun r =>
          (c :: d :: r.1, r.2)
    else (textBody ending passed cs).map fun r => (c :: r.1, r.2)

theorem map_eq_ok {ε α β : Type} {f : α → β} {x : Except ε α} {b : β} (h : x.map f = .ok b) :
    ∃ a, x = .ok a ∧ f a = b := by
  cases x with
  | error e => exact absurd h (by simp [Except.map])
  | ok a => exact ⟨a, rfl, Except.ok.inj h⟩

theorem length_textBody {ending cs : List Char} {passed : Nat} {r : List Char × List Char}
    (h : textBody ending passed cs = .ok r) : r.2.length ≤ cs.length := by
  fun_induction textBody ending passed cs generalizing r with
  | case1 => exact absurd h (by simp)
  | case2 passed c cs =>
    obtain rfl := Except.ok.inj h
    simp only [List.length_drop]
    omega
  | case3 => exact absurd h (by simp)
  | case4 =>
    rename_i ih
    obtain ⟨s, hs, rfl⟩ := map_eq_ok h
    have := ih hs
    exact Nat.le_succ_of_le this
  | case5 => exact absurd h (by simp)
  | case6 =>
    rename_i ih
    obtain ⟨s, hs, rfl⟩ := map_eq_ok h
    have := ih hs
    exact Nat.le_succ_of_le (Nat.le_succ_of_le this)
  | case7 =>
    rename_i ih
    obtain ⟨s, hs, rfl⟩ := map_eq_ok h
    have := ih hs
    exact Nat.le_succ_of_le this

/-! ## Numbers -/

/-- A number as it stands in a program, where it has no sign. -/
inductive Number
  | whole (value : Nat)
  | real (value : Numeral)
deriving DecidableEq, Repr

/-- The most digits that a whole number is written or read with. -/
def digitLimit : Nat := 4300

/-- What is said of a whole number with too many digits to read. -/
def tooManyDigits (digits : Nat) : String :=
  s!"Exceeds the limit ({digitLimit} digits) for integer string conversion: value has {digits} " ++
    "digits; use sys.set_int_max_str_digits() to increase the limit"

/-- How many digits a number has, if it has more than can be read. -/
def Number.excess? : Number → Option Nat
  | whole n => if n < Nat.pow 10 digitLimit then none else some (Nat.toDigits 10 n).length
  | real _ => none

/-- Whether digits begin with a zero that is not one of only zeros. -/
def hasLeadingZero (ds : List Char) : Bool := ds.head? = some '0' && !ds.all (· == '0')

/-- The number that the characters write. A whole number has no zero in front of other digits. -/
def Number.read? (cs : List Char) : Option Number := do
  let ds ← Numeral.dropUnderscores false cs
  if !ds.isEmpty && ds.all Char.isDigit then
    if hasLeadingZero ds then none
    else return .whole (Numeral.digitsValue ds)
  else (Numeral.decimal? false ds).map .real

/-- Digits with single underscores before some of them, and what follows. An underscore before
anything else is not allowed. -/
def digitRun : List Char → Option (List Char × List Char)
  | [] => some ([], [])
  | c :: cs =>
    if c.isDigit || (c = '_' && cs.head?.any Char.isDigit) then
      (digitRun cs).map fun r => (c :: r.1, r.2)
    else if c = '_' then none
    else some ([], c :: cs)

/-- The point of a number with the digits after it, if there is a point. -/
def pointRun (cs : List Char) : Option (List Char × List Char) :=
  match cs with
  | '.' :: ds =>
    if ds.head?.any Char.isDigit then (digitRun ds).map fun r => ('.' :: r.1, r.2)
    else some (['.'], ds)
  | cs => some ([], cs)

/-- The exponent of a number, if there is one. It has to have digits. -/
def exponentRun (cs : List Char) : Option (List Char × List Char) :=
  match cs with
  | c :: ds =>
    if c = 'e' || c = 'E' then
      let sign := (ds.take 1).filter fun d => d = '+' || d = '-'
      let ds := ds.drop sign.length
      if ds.head?.any Char.isDigit then (digitRun ds).map fun r => (c :: sign ++ r.1, r.2)
      else none
    else some ([], c :: ds)
  | [] => some ([], [])

theorem length_digitRun {cs : List Char} {r : List Char × List Char} (h : digitRun cs = some r) :
    r.2.length ≤ cs.length := by
  induction cs generalizing r with
  | nil =>
    obtain rfl := Option.some.inj h
    exact Nat.le_refl _
  | cons c cs ih =>
    rw [digitRun] at h
    split at h
    · obtain ⟨s, hs, rfl⟩ := Option.map_eq_some_iff.1 h
      have := ih hs
      exact Nat.le_succ_of_le this
    · split at h
      · exact absurd h (by simp)
      · obtain rfl := Option.some.inj h
        exact Nat.le_refl _

theorem length_pointRun {cs : List Char} {r : List Char × List Char} (h : pointRun cs = some r) :
    r.2.length ≤ cs.length := by
  unfold pointRun at h
  split at h
  · split at h
    · obtain ⟨s, hs, rfl⟩ := Option.map_eq_some_iff.1 h
      have := length_digitRun hs
      exact Nat.le_succ_of_le this
    · obtain rfl := Option.some.inj h
      exact Nat.le_succ _
  · obtain rfl := Option.some.inj h
    exact Nat.le_refl _

theorem length_exponentRun {cs : List Char} {r : List Char × List Char}
    (h : exponentRun cs = some r) : r.2.length ≤ cs.length := by
  unfold exponentRun at h
  split at h
  · split at h
    · simp only at h
      split at h
      · obtain ⟨s, hs, rfl⟩ := Option.map_eq_some_iff.1 h
        have := length_digitRun hs
        simp only [List.length_drop] at this
        simp only [List.length_cons]
        omega
      · exact absurd h (by simp)
    · obtain rfl := Option.some.inj h
      exact Nat.le_refl _
  · obtain rfl := Option.some.inj h
    exact Nat.le_refl _

end Flowline.Script
