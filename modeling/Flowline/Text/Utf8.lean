import Flowline.Text.Quoted

/-!
# Reading UTF-8

The bytes of a source file are read strictly: no surrogates, no overlong forms, nothing beyond
U+10FFFF. A fault names the bytes that could not be read and why, in the order in which a reader
meets them.
-/

namespace Flowline.Text

inductive DecodeCause
  | invalidStart
  | invalidContinuation
  | unexpectedEnd
deriving DecidableEq, Repr

def DecodeCause.message : DecodeCause → String
  | invalidStart => "invalid start byte"
  | invalidContinuation => "invalid continuation byte"
  | unexpectedEnd => "unexpected end of data"

/-- The `count` bytes from `position` on, the first of which is `byte`, cannot be read. -/
structure DecodeFault where
  position : Nat
  count : Nat
  byte : UInt8
  cause : DecodeCause
deriving DecidableEq, Repr

def DecodeFault.message (f : DecodeFault) : String :=
  if f.count = 1 then
    s!"'utf-8' codec can't decode byte 0x" ++ String.ofList (hexDigits 2 f.byte.toNat) ++
      s!" in position {f.position}: " ++ f.cause.message
  else
    s!"'utf-8' codec can't decode bytes in position {f.position}-{f.position + f.count - 1}: " ++
      f.cause.message

def isTail (b : UInt8) : Bool := 0x80 ≤ b && b < 0xC0

/-- Whether `b` may follow the first byte `lead` of a sequence of three or four bytes. -/
def isSecond (lead b : UInt8) : Bool :=
  isTail b && !(lead == 0xE0 && b < 0xA0) && !(lead == 0xED && 0xA0 ≤ b) &&
    !(lead == 0xF0 && b < 0x90) && !(lead == 0xF4 && 0x90 ≤ b)

def tailBits (b : UInt8) : Nat := b.toNat - 0x80

def decodeFrom (position : Nat) : List UInt8 → Except DecodeFault (List Char)
  | [] => .ok []
  | a :: rest =>
    let fault (count : Nat) (cause : DecodeCause) : Except DecodeFault (List Char) :=
      .error ⟨position, count, a, cause⟩
    if a < 0x80 then return Char.ofNat a.toNat :: (← decodeFrom (position + 1) rest)
    else if a < 0xC2 || 0xF5 ≤ a then fault 1 .invalidStart
    else if a < 0xE0 then
      match rest with
      | [] => fault 1 .unexpectedEnd
      | b :: rest =>
        if isTail b then
          return Char.ofNat ((a.toNat - 0xC0) * 64 + tailBits b) ::
            (← decodeFrom (position + 2) rest)
        else fault 1 .invalidContinuation
    else if a < 0xF0 then
      match rest with
      | [] => fault 1 .unexpectedEnd
      | [b] => if isSecond a b then fault 2 .unexpectedEnd else fault 1 .invalidContinuation
      | b :: c :: rest =>
        if !isSecond a b then fault 1 .invalidContinuation
        else if !isTail c then fault 2 .invalidContinuation
        else
          return Char.ofNat ((a.toNat - 0xE0) * 4096 + tailBits b * 64 + tailBits c) ::
            (← decodeFrom (position + 3) rest)
    else
      match rest with
      | [] => fault 1 .unexpectedEnd
      | [b] => if isSecond a b then fault 2 .unexpectedEnd else fault 1 .invalidContinuation
      | [b, c] =>
        if !isSecond a b then fault 1 .invalidContinuation
        else if !isTail c then fault 2 .invalidContinuation
        else fault 3 .unexpectedEnd
      | b :: c :: d :: rest =>
        if !isSecond a b then fault 1 .invalidContinuation
        else if !isTail c then fault 2 .invalidContinuation
        else if !isTail d then fault 3 .invalidContinuation
        else
          return Char.ofNat ((a.toNat - 0xF0) * 262144 + tailBits b * 4096 + tailBits c * 64 +
            tailBits d) :: (← decodeFrom (position + 4) rest)

def decode (bytes : List UInt8) : Except DecodeFault (List Char) := decodeFrom 0 bytes

end Flowline.Text
